import TurbocableServer.Presence.Tracking

/-!
# What presence shows

The bucket has one key for a stream and a user, whatever the number of their
connections, and every connection deletes it on its own account.  The key shows
whether the user has a live subscription as long as no connection deletes it
under another one that holds it.
-/

namespace TurbocableServer.Connection.Session

open Foundations Protocol

variable {env : Environment} {session next : Session}
variable {action : SessionAction} {stream user : String}

/-- The connection is served and subscribed, and has put the key. -/
def Holds (env : Environment) (session : Session) (stream user : String) :
    Prop :=
  presenceUser env session.ctx = some user ∧ session.phase = .serving ∧
    session.SubscribedTo env stream ∧
    ((stream, user), true) ∉ session.pendingWrites

/-- The connection is served and subscribed, or has still to delete the key. -/
def AccountsFor (env : Environment) (session : Session)
    (stream user : String) : Prop :=
  presenceUser env session.ctx = some user ∧
    (((stream, user), false) ∈ session.pendingWrites ∨
      session.phase = .serving ∧ session.SubscribedTo env stream)

theorem pendingWrites_of_idle (idle : session.Idle) :
    session.pendingWrites = [] := by
  rw [pendingWrites, idle.2, List.filterMap_nil]

private theorem AccountsFor.receive (attends : session.Attends env)
    (accounts : session.AccountsFor env stream user) (idle : session.Idle)
    (frame : Option ClientFrame) :
    (session.receive env frame).AccountsFor env stream user := by
  obtain ⟨isUser, pending | ⟨serving, on⟩⟩ := accounts
  · rw [pendingWrites_of_idle idle] at pending
    cases pending
  · refine ⟨isUser, ?_⟩
    cases received_receive attends.replays isUser frame with
    | quiet quiet sameOn => exact Or.inr ⟨serving, (sameOn stream).mpr on⟩
    | subscribed identifier answer isQuiet isTodo isOn =>
        exact Or.inr ⟨serving, (isOn stream).mpr (Or.inr on)⟩
    | unsubscribed identifier isTodo isOn =>
        by_cases same : stream = identifier
        · left
          subst same
          refine mem_pendingWrites.mpr ⟨.presenceDelete stream user, ?_, rfl⟩
          rw [isTodo]
          simp
        · exact Or.inr ⟨serving, (isOn stream).mpr ⟨same, on⟩⟩

/-- A connection accounts for its key until it deletes it. -/
theorem AccountsFor.step (attends : session.Attends env)
    (accounts : session.AccountsFor env stream user)
    (steps : Steps env session action next) :
    next.AccountsFor env stream user ∨
      ∃ effect, session.performs action = some effect ∧
        effect.write = some ((stream, user), false) := by
  have works := attends.works user accounts.1
  cases steps.presenceMove with
  | same _ _ notEffect same sameTodo =>
      left
      rwa [AccountsFor, same.ctx, same.phase, same.subscribedTo,
        pendingWrites, sameTodo]
  | performed effect _ todo notLast same =>
      obtain ⟨isUser, pending | live⟩ := accounts
      · rw [pendingWrites_of_todo todo, List.mem_append,
          Option.mem_toList] at pending
        rcases pending with isFirst | later
        · exact Or.inr ⟨effect, performs_of_todo todo, isFirst⟩
        · exact Or.inl ⟨by rw [same.ctx]; exact isUser, Or.inl later⟩
      · refine Or.inl ⟨by rw [same.ctx]; exact isUser, Or.inr ?_⟩
        rwa [same.phase, same.subscribedTo]
  | framed frame idle => exact Or.inl (accounts.receive attends idle frame)
  | asked timestamp _ idle same isTodo =>
      obtain ⟨isUser, pending | live⟩ := accounts
      · rw [pendingWrites_of_idle idle] at pending
        cases pending
      · refine Or.inl ⟨by rw [same.ctx]; exact isUser, Or.inr ?_⟩
        rwa [same.phase, same.subscribedTo]
  | born ctx _ isUnborn serving isTodo sameFrames =>
      obtain ⟨-, pending | ⟨wasServing, -⟩⟩ := accounts
      · rw [pendingWrites, (attends.replays.fresh isUnborn).2] at pending
        cases pending
      · cases isUnborn.symm.trans wasServing
  | left _ _ wasServing sameCtx isLeaving sameInbound isTodo =>
      have nonePending : session.pendingWrites = [] := by
        rcases wasServing with ⟨idle, -⟩ | ⟨timestamp, rest, todo⟩
        · exact pendingWrites_of_idle idle
        · exact works.pendingWrites_of_sendPing todo
      obtain ⟨isUser, pending | ⟨serving, on⟩⟩ := accounts
      · rw [nonePending] at pending
        cases pending
      · refine Or.inl ⟨by rw [sameCtx]; exact isUser, Or.inl ?_⟩
        refine mem_pendingWrites.mpr ⟨.presenceDelete stream user, ?_, rfl⟩
        rw [isTodo, leaveEffects, isUser]
        have isKey := (attends.mem_heartbeats isUser stream).mpr on
        exact List.mem_append_left _
          (List.mem_map_of_mem (KeyOrder.mem_list.mpr isKey))
  | finished _ todo sameCtx isClosed sameInbound =>
      have isLeaving := works.leaving_of_dropSenders todo
      rw [works.dropSenders_last todo] at todo
      obtain ⟨-, pending | ⟨serving, -⟩⟩ := accounts
      · rw [pendingWrites, todo] at pending
        cases pending
      · cases isLeaving.symm.trans serving

private theorem Holds.of_receive (attends : session.Attends env)
    (idle : session.Idle) {frame : Option ClientFrame}
    (holds : (session.receive env frame).Holds env stream user) :
    session.Holds env stream user := by
  obtain ⟨isUser, -, on, nonePending⟩ := holds
  refine ⟨isUser, idle.1, ?_, by simp [pendingWrites_of_idle idle]⟩
  have sameUser : presenceUser env session.ctx = some user := isUser
  cases received_receive attends.replays sameUser frame with
  | quiet quiet sameOn => exact (sameOn stream).mp on
  | subscribed identifier answer isQuiet isTodo isOn =>
      rcases (isOn stream).mp on with rfl | wasOn
      · refine absurd (mem_pendingWrites.mpr
          ⟨.presencePut stream user, ?_, rfl⟩) nonePending
        rw [isTodo]
        simp
      · exact wasOn
  | unsubscribed identifier isTodo isOn => exact ((isOn stream).mp on).2

/-- A connection comes to hold a key by putting it. -/
theorem Holds.of_step (attends : session.Attends env)
    (steps : Steps env session action next)
    (holds : next.Holds env stream user) :
    session.Holds env stream user ∨
      ∃ effect, session.performs action = some effect ∧
        effect.write = some ((stream, user), true) := by
  cases steps.presenceMove with
  | same _ _ notEffect same sameTodo =>
      left
      rwa [Holds, same.ctx, same.phase, same.subscribedTo, pendingWrites,
        sameTodo] at holds
  | performed effect _ todo notLast same =>
      rw [Holds, same.ctx, same.phase, same.subscribedTo] at holds
      obtain ⟨isUser, serving, on, nonePending⟩ := holds
      by_cases isPut : effect.write = some ((stream, user), true)
      · exact Or.inr ⟨effect, performs_of_todo todo, isPut⟩
      · refine Or.inl ⟨isUser, serving, on, ?_⟩
        rw [pendingWrites_of_todo todo, List.mem_append, Option.mem_toList]
        rintro (isFirst | later)
        · exact isPut isFirst
        · exact nonePending later
  | framed frame idle => exact Or.inl (holds.of_receive attends idle)
  | asked timestamp _ idle same isTodo =>
      rw [Holds, same.ctx, same.phase, same.subscribedTo] at holds
      obtain ⟨isUser, serving, on, -⟩ := holds
      exact Or.inl
        ⟨isUser, serving, on, by simp [pendingWrites_of_idle idle]⟩
  | born ctx _ isUnborn serving isTodo sameFrames =>
      have noneOn := holds.2.2.1
      rw [SubscribedTo, accepted, sameFrames,
        (attends.replays.fresh isUnborn).1] at noneOn
      cases noneOn
  | left _ _ wasServing sameCtx isLeaving sameInbound isTodo =>
      cases isLeaving.symm.trans holds.2.1
  | finished _ todo sameCtx isClosed sameInbound =>
      cases isClosed.symm.trans holds.2.1

/-- A connection that deletes its key does not hold it any more. -/
theorem Holds.not_of_delete (attends : session.Attends env)
    (steps : Steps env session action next) {writer : String}
    (performs :
      session.performs action = some (.presenceDelete stream writer)) :
    ¬ next.Holds env stream user := by
  rintro ⟨isUser, serving, on, -⟩
  obtain ⟨rfl, rest, todo⟩ := performs_eq_some.mp performs
  have member : .presenceDelete stream writer ∈ session.todo := by
    rw [todo]
    exact List.mem_cons_self
  cases steps.presenceMove with
  | same _ _ notEffect same sameTodo => exact notEffect rfl
  | performed effect _ popped notLast same =>
      rw [same.ctx] at isUser
      rw [same.phase] at serving
      cases (attends.works user isUser).planned member with
      | quiet _ isQuiet => cases isQuiet
      | delete _ off =>
          exact off serving ((same.subscribedTo stream).mp on)
  | left _ _ wasServing sameCtx isLeaving sameInbound isTodo =>
      cases isLeaving.symm.trans serving
  | finished _ popped sameCtx isClosed sameInbound =>
      cases isClosed.symm.trans serving

end TurbocableServer.Connection.Session

namespace TurbocableServer.Presence.Tracking

open Foundations Connection

variable {env : Environment} {sys next : Tracking} {action : TrackingAction}
variable {stream user : String}

/-- The connection is served for the user, and the last command it accepted for
the stream was a Subscribe. -/
def Live (env : Environment) (session : Session) (stream user : String) :
    Prop :=
  session.phase = .serving ∧ session.ctx.userId = some user ∧
    session.SubscribedTo env stream

/-- The key is in the bucket iff a connection of the user is subscribed. -/
def Reflects (env : Environment) (sys : Tracking) (stream user : String) :
    Prop :=
  presenceKey stream user ∈ sys.bucket ↔
    ∃ conn, Live env (sys.sessions conn) stream user

/-- No connection has anything to do. -/
def AtRest (sys : Tracking) : Prop :=
  ∀ conn, (sys.sessions conn).todo = []

/-- A step that puts the key does so for the user, and in time; a step that
deletes it does so while no other connection holds it. -/
def Orderly (env : Environment) (stream user : String) (sys : Tracking)
    (action : TrackingAction) : Prop :=
  ∀ conn written writer on,
    sys.writeOf action = some (conn, (written, writer), on) →
      presenceKey written writer = presenceKey stream user →
        if on then
          (sys.sessions conn).ctx.userId = some user ∧ InTime conn sys action
        else
          ∀ other, other ≠ conn →
            ¬ (sys.sessions other).Holds env stream user

/-- A key in the bucket is accounted for, and a key that is held is in the
bucket. -/
structure Tracked (env : Environment) (stream user : String)
    (sys : Tracking) : Prop where
  covered :
    presenceKey stream user ∈ sys.bucket →
      ∃ conn, (sys.sessions conn).AccountsFor env stream user
  held :
    ∀ conn, (sys.sessions conn).Holds env stream user →
      presenceKey stream user ∈ sys.bucket

theorem presenceUser_of_available {ctx : ConnContext}
    (available : env.presenceAvailable = true) :
    presenceUser env ctx = ctx.userId := by
  rw [presenceUser, available]
  rfl

/-- A connection that puts the key accounts for it afterwards. -/
private theorem covered_of_put (available : env.presenceAvailable = true)
    (sound : sys.Sound env) (steps : Steps env sys action next)
    (orderly : Orderly env stream user sys action) {conn : ConnId}
    {written writer : String}
    (writes : sys.writeOf action = some (conn, (written, writer), true))
    (isKey : presenceKey written writer = presenceKey stream user) :
    (next.sessions conn).AccountsFor env stream user := by
  obtain ⟨isUserId, inTime⟩ := orderly conn written writer true writes isKey
  have isUser :
      presenceUser env (sys.sessions conn).ctx = some user :=
    (presenceUser_of_available available).trans isUserId
  have attends := sound.attends conn
  have works := attends.works user isUser
  cases steps.connMove conn with
  | elsewhere same _ notOwn =>
      rw [same]
      rcases writeOf_cases writes with
        ⟨move, effect, isOwn, -, -⟩ | ⟨rfl, present, -⟩
      · exact absurd isOwn (notOwn move)
      · obtain ⟨rfl, beating⟩ := sound.tick_cases isUser present inTime
        rw [presenceKey_left_inj.mp isKey] at beating
        exact ⟨isUser, beating.symm⟩
  | own move isMove stepped _ =>
      subst isMove
      obtain ⟨-, effect, performs, isWrite⟩ := writeOf_session.mp writes
      have accounts :
          (sys.sessions conn).AccountsFor env stream user := by
        cases works.planned (Session.mem_todo_of_performs performs) with
        | put identifier serving on =>
            cases isWrite
            rw [presenceKey_left_inj.mp isKey] at on
            exact ⟨isUser, Or.inr ⟨serving, on⟩⟩
        | quiet _ isQuiet =>
            cases (Effect.write_of_isQuiet isQuiet).symm.trans isWrite
        | _ => cases isWrite
      refine (accounts.step attends
        (Session.steps_of_step stepped)).resolve_right ?_
      rintro ⟨deleting, alsoPerforms, isDelete⟩
      rw [performs] at alsoPerforms
      cases alsoPerforms
      cases isWrite.symm.trans isDelete

/-- Whoever holds the key held it before, or puts it. -/
private theorem holds_of_steps (sound : sys.Sound env)
    (steps : Steps env sys action next) {conn : ConnId}
    (holds : (next.sessions conn).Holds env stream user) :
    (sys.sessions conn).Holds env stream user ∨
      sys.writeOf action = some (conn, (stream, user), true) := by
  cases steps.connMove conn with
  | elsewhere same _ _ =>
      rw [same] at holds
      exact Or.inl holds
  | own move isMove stepped _ =>
      subst isMove
      rcases holds.of_step (sound.attends conn)
          (Session.steps_of_step stepped) with
        held | ⟨effect, performs, isPut⟩
      · exact Or.inl held
      · exact Or.inr (writeOf_session.mpr ⟨rfl, effect, performs, isPut⟩)

/-- A connection that deletes the key has given it up. -/
private theorem not_holds_of_delete (sound : sys.Sound env)
    (steps : Steps env sys action next) {conn : ConnId}
    {written writer : String}
    (writes : sys.writeOf action = some (conn, (written, writer), false))
    (isKey : presenceKey written writer = presenceKey stream user)
    (held : (sys.sessions conn).Holds env stream user) :
    ¬ (next.sessions conn).Holds env stream user := by
  have attends := sound.attends conn
  cases steps.connMove conn with
  | elsewhere same _ notOwn =>
      rcases writeOf_cases writes with
        ⟨move, effect, isOwn, -, -⟩ | ⟨-, -, isPut⟩
      · exact absurd isOwn (notOwn move)
      · cases isPut
  | own move isMove stepped _ =>
      subst isMove
      obtain ⟨-, effect, performs, isWrite⟩ := writeOf_session.mp writes
      cases (attends.works user held.1).planned
          (Session.mem_todo_of_performs performs) with
      | delete identifier off =>
          cases isWrite
          rw [presenceKey_left_inj.mp isKey] at performs
          exact Session.Holds.not_of_delete attends
            (Session.steps_of_step stepped) performs
      | quiet _ isQuiet =>
          cases (Effect.write_of_isQuiet isQuiet).symm.trans isWrite
      | _ => cases isWrite

theorem Tracked.step (available : env.presenceAvailable = true)
    (sound : sys.Sound env) (tracked : Tracked env stream user sys)
    (steps : Steps env sys action next)
    (orderly : Orderly env stream user sys action) :
    Tracked env stream user next where
  covered := by
    intro present
    rcases steps.mem_bucket (presenceKey stream user) with
      unchanged | ⟨conn, written, writer, on, writes, isKey, inBucket⟩
    · obtain ⟨conn, accounts⟩ := tracked.covered (unchanged.mp present)
      refine ⟨conn, ?_⟩
      cases steps.connMove conn with
      | elsewhere same _ _ =>
          rw [same]
          exact accounts
      | own move isMove stepped _ =>
          subst isMove
          refine (accounts.step (sound.attends conn)
            (Session.steps_of_step stepped)).resolve_right ?_
          rintro ⟨effect, performs, isDelete⟩
          rw [steps.bucket,
            writeOf_session.mpr ⟨rfl, effect, performs, isDelete⟩] at present
          simp [mem_written] at present
    · obtain rfl := inBucket.mp present
      exact ⟨conn, covered_of_put available sound steps orderly writes isKey⟩
  held := by
    intro conn holds
    rcases holds_of_steps sound steps holds with held | puts
    · rcases steps.mem_bucket (presenceKey stream user) with
        unchanged | ⟨acting, written, writer, on, writes, isKey, inBucket⟩
      · exact unchanged.mpr (tracked.held conn held)
      · cases on with
        | true => exact inBucket.mpr rfl
        | false =>
            by_cases own : conn = acting
            · subst own
              exact absurd holds
                (not_holds_of_delete sound steps writes isKey held)
            · exact absurd held
                (orderly acting written writer false writes isKey conn own)
    · rw [steps.bucket, puts]
      simp [mem_written]

theorem tracked_of_reaches (available : env.presenceAvailable = true)
    (run :
      Reaches (step env) (Orderly env stream user) (initial env) sys) :
    Tracked env stream user sys := by
  induction run with
  | refl =>
      refine ⟨fun present => ?_, fun conn holds => ?_⟩
      · simp [initial] at present
      · cases holds.2.1
  | tail before last ih =>
      obtain ⟨label, orderly, moved⟩ := last
      exact ih.step available (sound_of_reaches before)
        (steps_of_step moved) orderly

/-- Presence reflects the live subscriptions whenever nothing is in progress. -/
theorem presence_reflects (available : env.presenceAvailable = true)
    (run :
      Reaches (step env) (Orderly env stream user) (initial env) sys)
    (atRest : sys.AtRest) : Reflects env sys stream user := by
  have tracked := tracked_of_reaches available run
  have nonePending :
      ∀ conn, (sys.sessions conn).pendingWrites = [] := by
    intro conn
    rw [Session.pendingWrites, atRest conn, List.filterMap_nil]
  constructor
  · intro present
    obtain ⟨conn, isUser, pending | ⟨serving, on⟩⟩ := tracked.covered present
    · rw [nonePending] at pending
      cases pending
    · rw [presenceUser_of_available available] at isUser
      exact ⟨conn, serving, isUser, on⟩
  · rintro ⟨conn, serving, isUserId, on⟩
    rw [← presenceUser_of_available available] at isUserId
    refine tracked.held conn ⟨isUserId, serving, on, ?_⟩
    simp [nonePending]

/-! ## Two connections of one user -/

/-- A decidable guard: the key is not deleted at all. -/
def Careful (stream user : String) (sys : Tracking)
    (action : TrackingAction) : Prop :=
  ∀ write, write ∈ sys.writeOf action →
    presenceKey write.2.1.1 write.2.1.2 = presenceKey stream user →
      write.2.2 = true ∧ (sys.sessions write.1).ctx.userId = some user ∧
        InTime write.1 sys action

instance (stream user : String) (sys : Tracking) (action : TrackingAction) :
    Decidable (Careful stream user sys action) :=
  inferInstanceAs
    (Decidable
      (∀ write, write ∈ sys.writeOf action →
        presenceKey write.2.1.1 write.2.1.2 = presenceKey stream user → _))

theorem Careful.orderly (careful : Careful stream user sys action) :
    Orderly env stream user sys action := by
  intro conn written writer on writes isKey
  obtain ⟨isPut, isUserId, inTime⟩ :=
    careful (conn, (written, writer), on) writes isKey
  obtain rfl : on = true := isPut
  exact ⟨isUserId, inTime⟩

/-- Unsubscribe from `news`. -/
def leaveNews (conn : ConnId) : List TrackingAction :=
  [.session conn (.frame (some (.command (.unsubscribe "news")))),
    .session conn .effect, .session conn .effect, .session conn .effect]

theorem atRest_of_reaches {conns : List ConnId}
    {allowed : Tracking → TrackingAction → Prop}
    (run :
      Reaches (step env)
        (fun sys action => action.conn ∈ conns ∧ allowed sys action)
        (initial env) sys)
    (active : ∀ conn, conn ∈ conns → (sys.sessions conn).todo = []) :
    sys.AtRest := by
  intro conn
  by_cases isActive : conn ∈ conns
  · exact active conn isActive
  · rw [unborn_of_reaches run isActive]
    rfl

/-- Two connections of `alice`, and one of `bob` that leaves. -/
def gathered : Tracking :=
  (execute (step newsEnv)
    (fun sys action =>
      action.conn ∈ [0, 1, 2] ∧ Careful "news" "alice" sys action)
    (initial newsEnv)
    (joinNews 0 "alice" ++ joinNews 1 "bob" ++ [.tick 0 "news"] ++
      leaveNews 1 ++ joinNews 2 "alice")).get (by decide)

theorem gathered_reflects :
    "news.alice" ∈ gathered.bucket ∧ "news.bob" ∉ gathered.bucket ∧
      Reflects newsEnv gathered "news" "alice" := by
  have run :
      Reaches (step newsEnv)
        (fun sys action =>
          action.conn ∈ [0, 1, 2] ∧ Careful "news" "alice" sys action)
        (initial newsEnv) gathered :=
    reaches_execute_get _
  have atRest : gathered.AtRest :=
    atRest_of_reaches run (by decide)
  exact ⟨by decide, by decide,
    presence_reflects rfl
      (run.weaken (fun _ _ guard => guard.2.orderly)) atRest⟩

/-- Of two connections of `alice`, one leaves. -/
def undercut : Tracking :=
  (execute (step newsEnv)
    (fun _ action => action.conn ∈ [0, 1] ∧ True)
    (initial newsEnv)
    (joinNews 0 "alice" ++ joinNews 1 "alice" ++ leaveNews 1)).get (by decide)

/-- The other one is still subscribed, and the key is gone. -/
theorem undercut_not_reflected :
    Reaches (step newsEnv) (fun _ _ => True) (initial newsEnv) undercut ∧
      undercut.AtRest ∧
      Live newsEnv (undercut.sessions 0) "news" "alice" ∧
      ¬ Reflects newsEnv undercut "news" "alice" := by
  have run :
      Reaches (step newsEnv)
        (fun _ action => action.conn ∈ [0, 1] ∧ True)
        (initial newsEnv) undercut :=
    reaches_execute_get _
  have live : Live newsEnv (undercut.sessions 0) "news" "alice" := by
    refine ⟨?_, ?_, ?_⟩ <;> decide
  have gone : presenceKey "news" "alice" ∉ undercut.bucket := by decide
  refine ⟨run.weaken (fun _ _ _ => trivial),
    atRest_of_reaches run (by decide), live, ?_⟩
  intro reflects
  exact gone (reflects.mpr ⟨0, live⟩)

end TurbocableServer.Presence.Tracking
