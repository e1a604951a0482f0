import Mathlib.Data.Finset.Basic
import Mathlib.Logic.Function.Basic
import TurbocableServer.Connection.PresencePlan
import TurbocableServer.Connection.Registry
import TurbocableServer.Foundations.Reachability

/-!
# Presence

The bucket `TC_PRESENCE` of `presence/mod.rs` with the connections and the
heartbeat tasks that write to it.  A key is in the bucket or not: writes succeed,
and entries do not expire.  The sessions take their steps in any order, and a
heartbeat task refreshes its key at any time until its handle is dropped.
-/

namespace TurbocableServer.Presence

open Foundations Connection

/-- The key of an entry. -/
def presenceKey (stream user : String) : String :=
  stream ++ "." ++ user

/-- For one user, streams have different keys. -/
theorem presenceKey_left_inj {stream other user : String} :
    presenceKey stream user = presenceKey other user ↔ stream = other := by
  simp [presenceKey]

/-- For two users they need not have. -/
example : presenceKey "news.eu" "alice" = presenceKey "news" "eu.alice" := by
  decide

/-- The connections, the heartbeat tasks each of them has a handle of (stream
and user), and the keys in the bucket. -/
structure Tracking where
  sessions : ConnId → Session
  beats : ConnId → Table String String
  bucket : Finset String

inductive TrackingAction where
  | session (conn : ConnId) (action : SessionAction)
  | tick (conn : ConnId) (stream : String)

/-- The connection whose task or heartbeat acts. -/
def TrackingAction.conn : TrackingAction → ConnId
  | .session conn _ => conn
  | .tick conn _ => conn

namespace Tracking

def initial (env : Environment) : Tracking where
  sessions := fun _ => .unborn env
  beats := fun _ => ∅
  bucket := ∅

def setBeats (sys : Tracking) (conn : ConnId) (beats : Table String String) :
    Tracking :=
  { sys with beats := Function.update sys.beats conn beats }

/-- What an effect of the connection task does to presence.  A new handle takes
the place of the old one, which is dropped; `inbound_loop` drops the handles that
are left when it returns, before the connection is deregistered. -/
def perform (sys : Tracking) (conn : ConnId) : Effect → Tracking
  | .presencePut stream user =>
      { sys with bucket := insert (presenceKey stream user) sys.bucket }
  | .presenceDelete stream user =>
      { sys with bucket := sys.bucket.erase (presenceKey stream user) }
  | .startHeartbeat stream user =>
      sys.setBeats conn ((sys.beats conn).insert stream user)
  | .stopHeartbeat stream =>
      sys.setBeats conn ((sys.beats conn).erase stream)
  | .registryDeregister => sys.setBeats conn ∅
  | _ => sys

def performOption (sys : Tracking) (conn : ConnId) : Option Effect → Tracking
  | some effect => sys.perform conn effect
  | none => sys

def step (env : Environment) (sys : Tracking) :
    TrackingAction → Option Tracking
  | .session conn action =>
      ((sys.sessions conn).step env action).map (fun session =>
        { sys.performOption conn ((sys.sessions conn).performs action) with
          sessions := Function.update sys.sessions conn session })
  | .tick conn stream =>
      ((sys.beats conn).lookup stream).map (fun user =>
        { sys with bucket := insert (presenceKey stream user) sys.bucket })

/-! ## Writes to the bucket -/

/-- The write that an action makes: by whom, for which stream and user, and
whether it puts the key or deletes it. -/
def writeOf (sys : Tracking) :
    TrackingAction → Option (ConnId × (String × String) × Bool)
  | .session conn action =>
      (((sys.sessions conn).performs action).bind Effect.write).map
        (fun write => (conn, write))
  | .tick conn stream =>
      ((sys.beats conn).lookup stream).map
        (fun user => (conn, (stream, user), true))

/-- No heartbeat of the connection refreshes a key that the clean-up has already
deleted. -/
def InTime (conn : ConnId) (sys : Tracking) : TrackingAction → Prop
  | .tick beating stream =>
      beating = conn → (sys.sessions conn).phase = .leaving →
        (sys.sessions conn).Deletes stream
  | .session _ _ => True

instance (conn : ConnId) (sys : Tracking) :
    (action : TrackingAction) → Decidable (InTime conn sys action)
  | .tick beating stream =>
      inferInstanceAs
        (Decidable
          (beating = conn → (sys.sessions conn).phase = .leaving →
            (sys.sessions conn).Deletes stream))
  | .session _ _ => isTrue trivial

variable {env : Environment} {sys next : Tracking} {action : TrackingAction}

theorem writeOf_session {conn : ConnId} {move : SessionAction}
    {writer : ConnId} {write : (String × String) × Bool} :
    sys.writeOf (.session conn move) = some (writer, write) ↔
      writer = conn ∧ ∃ effect,
        (sys.sessions conn).performs move = some effect ∧
          effect.write = some write := by
  simp only [writeOf, Option.map_eq_some_iff, Option.bind_eq_some_iff,
    Prod.mk.injEq]
  constructor
  · rintro ⟨made, performed, rfl, rfl⟩
    exact ⟨rfl, performed⟩
  · rintro ⟨rfl, performed⟩
    exact ⟨write, performed, rfl, rfl⟩

theorem writeOf_cases {conn : ConnId} {stream user : String} {on : Bool}
    (writes : sys.writeOf action = some (conn, (stream, user), on)) :
    (∃ move effect, action = .session conn move ∧
        (sys.sessions conn).performs move = some effect ∧
        effect.write = some ((stream, user), on)) ∨
      action = .tick conn stream ∧
        (sys.beats conn).lookup stream = some user ∧ on = true := by
  cases action with
  | session moved move =>
      obtain ⟨rfl, effect, performs, isEffect⟩ := writeOf_session.mp writes
      exact Or.inl ⟨move, effect, rfl, performs, isEffect⟩
  | tick beating beatStream =>
      obtain ⟨beatUser, present, isResult⟩ := Option.map_eq_some_iff.mp writes
      cases isResult
      exact Or.inr ⟨rfl, present, rfl⟩

theorem conn_of_writeOf {conn : ConnId} {write : (String × String) × Bool}
    (writes : sys.writeOf action = some (conn, write)) :
    action.conn = conn := by
  obtain ⟨⟨stream, user⟩, on⟩ := write
  rcases writeOf_cases writes with ⟨move, effect, rfl, -, -⟩ | ⟨rfl, -, -⟩
  · rfl
  · rfl

/-- The moves of the system: a session makes a step, or a heartbeat ticks. -/
inductive Steps (env : Environment) (sys : Tracking) :
    TrackingAction → Tracking → Prop
  | session (conn : ConnId) (move : SessionAction) (session : Session) :
      (sys.sessions conn).step env move = some session →
      Steps env sys (.session conn move)
        { sys.performOption conn ((sys.sessions conn).performs move) with
          sessions := Function.update sys.sessions conn session }
  | tick (conn : ConnId) (stream user : String) :
      (sys.beats conn).lookup stream = some user →
      Steps env sys (.tick conn stream)
        { sys with bucket := insert (presenceKey stream user) sys.bucket }

theorem steps_of_step (moved : sys.step env action = some next) :
    Steps env sys action next := by
  cases action with
  | session conn move =>
      obtain ⟨session, stepped, rfl⟩ := Option.map_eq_some_iff.mp moved
      exact .session conn move session stepped
  | tick conn stream =>
      obtain ⟨user, beats, rfl⟩ := Option.map_eq_some_iff.mp moved
      exact .tick conn stream user beats

/-- The bucket after a write. -/
def written (bucket : Finset String) :
    (String × String) × Bool → Finset String
  | ((stream, user), true) => insert (presenceKey stream user) bucket
  | ((stream, user), false) => bucket.erase (presenceKey stream user)

theorem mem_written {bucket : Finset String} {stream user key : String}
    {on : Bool} :
    key ∈ written bucket ((stream, user), on) ↔
      if key = presenceKey stream user then on = true else key ∈ bucket := by
  cases on with
  | true =>
      simp only [written, Finset.mem_insert]
      split <;> simp_all
  | false =>
      simp only [written, Finset.mem_erase]
      split <;> simp_all

theorem perform_bucket (conn : ConnId) (effect : Effect) :
    (sys.perform conn effect).bucket =
      effect.write.elim sys.bucket (written sys.bucket) := by
  cases effect <;> rfl

theorem Steps.bucket (steps : Steps env sys action next) :
    next.bucket =
      (sys.writeOf action).elim sys.bucket
        (fun write => written sys.bucket write.2) := by
  cases steps with
  | session conn move session stepped =>
      simp only [writeOf, performOption]
      cases (sys.sessions conn).performs move with
      | none => rfl
      | some effect =>
          rw [Option.bind_some, perform_bucket]
          cases effect.write <;> rfl
  | tick conn stream user beats =>
      rw [writeOf, beats]
      rfl

/-- A key is in the bucket after a step if the step has put it, or has not
written it and it was there. -/
theorem Steps.mem_bucket (steps : Steps env sys action next) (key : String) :
    (key ∈ next.bucket ↔ key ∈ sys.bucket) ∨
      ∃ conn stream user on,
        sys.writeOf action = some (conn, (stream, user), on) ∧
          presenceKey stream user = key ∧
          (key ∈ next.bucket ↔ on = true) := by
  rw [steps.bucket]
  cases isWrite : sys.writeOf action with
  | none => exact Or.inl Iff.rfl
  | some write =>
      obtain ⟨conn, ⟨stream, user⟩, on⟩ := write
      simp only [Option.elim_some, mem_written]
      by_cases same : key = presenceKey stream user
      · exact Or.inr ⟨conn, stream, user, on, rfl, same.symm, by simp [same]⟩
      · exact Or.inl (by simp [same])

/-! ## What holds in every state -/

theorem perform_beats_of_ne {conn other : ConnId} (different : conn ≠ other)
    (effect : Effect) :
    (sys.perform other effect).beats conn = sys.beats conn := by
  cases effect <;> simp [perform, setBeats, different]

/-- A handle is new, or it was there and is not dropped. -/
theorem lookup_perform {conn : ConnId} {effect : Effect}
    {stream user : String}
    (present :
      ((sys.perform conn effect).beats conn).lookup stream = some user) :
    effect = .startHeartbeat stream user ∨
      (sys.beats conn).lookup stream = some user ∧
        effect ≠ .stopHeartbeat stream ∧ effect ≠ .registryDeregister := by
  cases effect with
  | startHeartbeat started starter =>
      simp only [perform, setBeats, Function.update_self,
        Table.lookup_insert_eq_ite] at present
      split at present
      · rename_i same
        cases present
        exact Or.inl (by rw [same])
      · exact Or.inr ⟨present, by simp, by simp⟩
  | stopHeartbeat stopped =>
      simp only [perform, setBeats, Function.update_self,
        Table.lookup_erase_eq_ite] at present
      split at present
      · cases present
      · rename_i different
        refine Or.inr ⟨present, ?_, by simp⟩
        rintro ⟨⟩
        exact different rfl
  | registryDeregister =>
      simp [perform, setBeats] at present
  | _ => exact Or.inr ⟨present, by simp, by simp⟩

/-- Of every connection: its plan, and the handles it has. -/
structure Sound (env : Environment) (sys : Tracking) : Prop where
  attends : ∀ conn, (sys.sessions conn).Attends env
  fresh :
    ∀ conn, (sys.sessions conn).phase = .unborn → sys.beats conn = ∅
  beats :
    ∀ conn user, presenceUser env (sys.sessions conn).ctx = some user →
      ∀ stream beatUser, (sys.beats conn).lookup stream = some beatUser →
        beatUser = user ∧ (sys.sessions conn).Beating env stream

theorem sound_initial (env : Environment) : (initial env).Sound env where
  attends := fun _ => Session.attends_unborn env
  fresh := fun _ _ => rfl
  beats := by
    intro conn user isUser stream beatUser present
    simp [initial] at present

/-- What a step means for one connection. -/
inductive ConnMove (env : Environment) (sys : Tracking) (conn : ConnId)
    (action : TrackingAction) (next : Tracking) : Prop
  | elsewhere :
      next.sessions conn = sys.sessions conn →
      next.beats conn = sys.beats conn →
      (∀ move, action ≠ .session conn move) →
      ConnMove env sys conn action next
  | own (move : SessionAction) :
      action = .session conn move →
      (sys.sessions conn).step env move = some (next.sessions conn) →
      next.beats conn =
        (sys.performOption conn
          ((sys.sessions conn).performs move)).beats conn →
      ConnMove env sys conn action next

theorem Steps.connMove (steps : Steps env sys action next) (conn : ConnId) :
    ConnMove env sys conn action next := by
  cases steps with
  | session moved move session stepped =>
      by_cases same : conn = moved
      · subst same
        exact .own move rfl (by simpa using stepped) rfl
      · refine .elsewhere (by simp [same]) ?_ (fun other isOther => ?_)
        · cases performs : (sys.sessions moved).performs move with
          | none => rfl
          | some effect => exact perform_beats_of_ne same effect
        · cases isOther
          exact same rfl
  | tick moved stream user beats =>
      exact .elsewhere rfl rfl (fun move isMove => by cases isMove)

/-- A connection that has not been accepted performs nothing. -/
theorem performs_of_unborn {session : Session} (attends : session.Attends env)
    (isUnborn : session.phase = .unborn) (move : SessionAction) :
    session.performs move = none := by
  cases move with
  | effect =>
      rw [Session.performs, (attends.replays.fresh isUnborn).2]
      rfl
  | _ => rfl

private theorem Sound.beats_own (sound : sys.Sound env) {conn : ConnId}
    {move : SessionAction}
    (stepped : (sys.sessions conn).step env move = some (next.sessions conn))
    (isBeats :
      next.beats conn =
        (sys.performOption conn
          ((sys.sessions conn).performs move)).beats conn)
    {user : String}
    (isUser : presenceUser env (sys.sessions conn).ctx = some user)
    {stream beatUser : String}
    (present : (next.beats conn).lookup stream = some beatUser) :
    beatUser = user ∧ (next.sessions conn).Beating env stream := by
  have attends := sound.attends conn
  have lasts :=
    fun (beating : (sys.sessions conn).Beating env stream) =>
      beating.step attends isUser (Session.steps_of_step stepped)
  rw [isBeats] at present
  cases performs : (sys.sessions conn).performs move with
  | none =>
      rw [performs] at present
      obtain ⟨sameUser, beating⟩ :=
        sound.beats conn user isUser stream beatUser present
      refine ⟨sameUser, (lasts beating).resolve_right ?_⟩
      simp [performs]
  | some effect =>
      rw [performs] at present
      rcases lookup_perform present with rfl | ⟨was, notStop, notDrop⟩
      · have member := Session.mem_todo_of_performs performs
        cases (attends.works user isUser).planned member with
        | quiet _ isQuiet => cases isQuiet
        | start _ serving on =>
            refine ⟨rfl, (lasts (Or.inl ⟨serving, Or.inl on⟩)).resolve_right ?_⟩
            simp [performs]
      · obtain ⟨sameUser, beating⟩ :=
          sound.beats conn user isUser stream beatUser was
        refine ⟨sameUser, (lasts beating).resolve_right ?_⟩
        simp [performs, notStop, notDrop]

theorem Sound.step (sound : sys.Sound env)
    (steps : Steps env sys action next) : next.Sound env where
  attends := by
    intro conn
    cases steps.connMove conn with
    | elsewhere same _ _ =>
        rw [same]
        exact sound.attends conn
    | own move _ stepped _ =>
        exact (sound.attends conn).step (Session.steps_of_step stepped)
  fresh := by
    intro conn isUnborn
    cases steps.connMove conn with
    | elsewhere same sameBeats _ =>
        rw [same] at isUnborn
        rw [sameBeats]
        exact sound.fresh conn isUnborn
    | own move _ stepped isBeats =>
        have wasUnborn := (Session.steps_of_step stepped).phase isUnborn
        rw [isBeats, performs_of_unborn (sound.attends conn) wasUnborn]
        exact sound.fresh conn wasUnborn
  beats := by
    intro conn user isUser stream beatUser present
    cases steps.connMove conn with
    | elsewhere same sameBeats _ =>
        rw [same] at isUser ⊢
        rw [sameBeats] at present
        exact sound.beats conn user isUser stream beatUser present
    | own move _ stepped isBeats =>
        rcases (Session.steps_of_step stepped).ctx with sameCtx | wasUnborn
        · rw [sameCtx] at isUser
          exact sound.beats_own stepped isBeats isUser present
        · rw [isBeats, performs_of_unborn (sound.attends conn) wasUnborn,
            performOption, sound.fresh conn wasUnborn] at present
          simp at present

/-- A heartbeat that ticks in time belongs to a connection that is being served,
or whose clean-up has its key still to delete. -/
theorem Sound.tick_cases (sound : sys.Sound env) {conn : ConnId}
    {stream user beatUser : String}
    (isUser : presenceUser env (sys.sessions conn).ctx = some user)
    (present : (sys.beats conn).lookup stream = some beatUser)
    (inTime : InTime conn sys (.tick conn stream)) :
    beatUser = user ∧
      ((sys.sessions conn).phase = .serving ∧
          (sys.sessions conn).SubscribedTo env stream ∨
        ((stream, user), false) ∈ (sys.sessions conn).pendingWrites) := by
  have works := (sound.attends conn).works user isUser
  obtain ⟨sameUser, beating⟩ :=
    sound.beats conn user isUser stream beatUser present
  refine ⟨sameUser, ?_⟩
  rcases beating with ⟨serving, on | stops⟩ | ⟨isLeaving, -⟩
  · exact Or.inl ⟨serving, on⟩
  · right
    cases works.planned stops with
    | quiet _ isQuiet => cases isQuiet
    | stop _ deletes => exact Session.mem_pendingWrites.mpr ⟨_, deletes, rfl⟩
  · right
    obtain ⟨⟨⟨deleted, writer⟩, on⟩, pending, rfl, rfl⟩ :=
      inTime rfl isLeaving
    rwa [works.user_of_pending pending] at pending

theorem sound_of_reaches {allowed : Tracking → TrackingAction → Prop}
    (run : Reaches (step env) allowed (initial env) sys) : sys.Sound env :=
  run.invariant
    (fun _ _ _ _ moved sound => sound.step (steps_of_step moved))
    (sound_initial env)

/-- Connections that do not act stay as they were. -/
theorem unborn_of_reaches {conns : List ConnId}
    {allowed : Tracking → TrackingAction → Prop}
    (run :
      Reaches (step env)
        (fun sys action => action.conn ∈ conns ∧ allowed sys action)
        (initial env) sys)
    {conn : ConnId} (inactive : conn ∉ conns) :
    sys.sessions conn = .unborn env := by
  induction run with
  | refl =>
      rfl
  | tail before last ih =>
      obtain ⟨label, ⟨isActive, -⟩, moved⟩ := last
      cases (steps_of_step moved).connMove conn with
      | elsewhere same _ _ => exact same.trans ih
      | own move isMove _ _ =>
          rw [isMove] at isActive
          exact absurd isActive inactive

/-! ## Connections that subscribe to `news` -/

def newsEnv : Environment :=
  { Environment.fourSlots with
    natsAvailable := false
    presenceAvailable := true }

/-- A connection of `user` that subscribes to `news`. -/
def joinNews (conn : ConnId) (user : String) : List TrackingAction :=
  [.session conn (.accept ⟨false, ["*"], some user⟩),
    .session conn .effect, .session conn .effect,
    .session conn (.frame (some (.command (.subscribe "news")))),
    .session conn .effect, .session conn .effect, .session conn .effect,
    .session conn .effect]

end Tracking

end TurbocableServer.Presence
