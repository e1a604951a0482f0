import Mathlib.Logic.Function.Basic
import TurbocableServer.Connection.Registry

/-!
# Registry calls interleaved

Connection tasks and the fan-out task working on one registry, interleaved at
single map accesses.  The task of a connection registers its id, then runs any
sequence of `subscribe` and `unsubscribe` calls on it, then deregisters it; the
fan-out task runs `fanout_encoded` calls, and with them `deregister` on the ids
whose channel refused the payload.

Two guards outlive the access that creates them, and block the accesses of the
other tasks to their entry while they are held: `subscribe` keeps its
`conn_streams` entry locked until the stream is recorded there, and
`fanout_encoded` keeps its `streams` entry read-locked until every subscriber
is served.
-/

namespace TurbocableServer.Connection

open Foundations

/-- Where a `deregister` call stands: the access it makes next.  At
`detaching []` that is `connections.remove`. -/
inductive DeregPc where
  | takeStreams
  | detaching (todo : List String)
  | pruning (stream : String) (todo : List String)
  | countingDown
  deriving DecidableEq, Repr

/-- Where the task of a connection stands. -/
inductive TaskPc where
  | unborn
  | insertingStreams
  | countingUp
  | ready
  | pushing (stream : String)
  | recording (stream : String)
  | pruning (stream : String)
  | forgetting (stream : String)
  | deregistering (pc : DeregPc)
  | gone
  deriving DecidableEq, Repr

/-- Where the fan-out task stands. -/
inductive FanPc where
  | idle
  | scanning (stream : String) (todo evicted : List ConnId)
  | evicting (conn : ConnId) (pc : DeregPc) (rest : List ConnId)
  deriving DecidableEq, Repr

/-- The registry with its tasks.  `deregistered` records the ids for which some
`deregister` call has returned. -/
structure RegSystem where
  reg : Registry
  task : ConnId → TaskPc
  fan : FanPc
  deregistered : List ConnId

/-- One move: a task begins a call (and makes its first access), a task makes
the next access of its call, or the fan-out task moves. -/
inductive RegAction where
  | register (conn : ConnId) (entry : ConnectionEntry)
  | subscribe (conn : ConnId) (stream : String)
  | unsubscribe (conn : ConnId) (stream : String)
  | deregister (conn : ConnId)
  | advance (conn : ConnId)
  | fanout (stream : String)
  | deliver (accepted : Bool)
  | release
  | evict
  deriving DecidableEq, Repr

/-- One access of `deregister`, with the program point after it; `none` means
that the call returns. -/
def deregStep (registry : Registry) (conn : ConnId) :
    DeregPc → Registry × Option DeregPc
  | .takeStreams =>
      (registry.removeConnStreams conn,
        some (.detaching (registry.streamsOf conn)))
  | .detaching [] =>
      (registry.removeConnection conn,
        if conn ∈ registry.connections then some .countingDown else none)
  | .detaching (stream :: rest) =>
      (registry.retainSubscribers stream conn,
        some
          (if registry.shouldRemove stream conn then
            .pruning stream rest
          else
            .detaching rest))
  | .pruning stream rest =>
      (registry.removeIfEmpty stream, some (.detaching rest))
  | .countingDown => (registry.countDown, none)

/-- The `streams` entry the next access of a `deregister` call writes. -/
def DeregPc.writes : DeregPc → Option String
  | .detaching (stream :: _) => some stream
  | .pruning stream _ => some stream
  | _ => none

namespace RegSystem

def initial : RegSystem where
  reg := Registry.new
  task := fun _ => .unborn
  fan := .idle
  deregistered := []

/-- The fan-out task holds its read guard on the entry of `stream`. -/
def readLocked (sys : RegSystem) (stream : String) : Bool :=
  match sys.fan with
  | .scanning held _ _ => held == stream
  | _ => false

/-- A `subscribe` call holds its guard on the entry of `conn`. -/
def connStreamsLocked (sys : RegSystem) (conn : ConnId) : Bool :=
  match sys.task conn with
  | .pushing _ => true
  | .recording _ => true
  | _ => false

/-- Replace the registry and the program point of one task. -/
def move (sys : RegSystem) (conn : ConnId) (registry : Registry)
    (pc : TaskPc) : RegSystem :=
  { sys with reg := registry, task := Function.update sys.task conn pc }

@[simp]
theorem move_task_self (sys : RegSystem) (conn : ConnId)
    (registry : Registry) (pc : TaskPc) :
    (sys.move conn registry pc).task conn = pc :=
  Function.update_self ..

theorem move_task_of_ne (sys : RegSystem) {conn other : ConnId}
    (different : other ≠ conn) (registry : Registry) (pc : TaskPc) :
    (sys.move conn registry pc).task other = sys.task other :=
  Function.update_of_ne different ..

/-- The fan-out task after the entries it has to evict. -/
def evictNext : List ConnId → FanPc
  | [] => .idle
  | conn :: rest => .evicting conn .takeStreams rest

/-- The next access of the `deregister` call of the task of `conn`. -/
def taskDeregister (sys : RegSystem) (conn : ConnId) (pc : DeregPc) :
    RegSystem :=
  match deregStep sys.reg conn pc with
  | (registry, some next) => sys.move conn registry (.deregistering next)
  | (registry, none) =>
      { sys.move conn registry .gone with
        deregistered := sys.deregistered ++ [conn] }

/-- The next access of the call that the task of `conn` is in. -/
def advance (sys : RegSystem) (conn : ConnId) : Option RegSystem :=
  match sys.task conn with
  | .insertingStreams =>
      some (sys.move conn (sys.reg.insertConnStreams conn) .countingUp)
  | .countingUp => some (sys.move conn sys.reg.countUp .ready)
  | .pushing stream =>
      if sys.readLocked stream then
        none
      else
        some (sys.move conn (sys.reg.pushSubscriber stream conn)
          (.recording stream))
  | .recording stream =>
      some (sys.move conn (sys.reg.pushConnStream conn stream) .ready)
  | .pruning stream =>
      if sys.readLocked stream then
        none
      else
        some (sys.move conn (sys.reg.removeIfEmpty stream)
          (.forgetting stream))
  | .forgetting stream =>
      some (sys.move conn (sys.reg.forgetConnStream conn stream) .ready)
  | .deregistering pc =>
      if (pc.writes.map sys.readLocked).getD false then
        none
      else
        some (sys.taskDeregister conn pc)
  | _ => none

/-- The next access of the `deregister` call of the fan-out task. -/
def fanDeregister (sys : RegSystem) (conn : ConnId) (pc : DeregPc)
    (rest : List ConnId) : RegSystem :=
  match deregStep sys.reg conn pc with
  | (registry, some next) =>
      { sys with reg := registry, fan := .evicting conn next rest }
  | (registry, none) =>
      { sys with
        reg := registry
        fan := evictNext rest
        deregistered := sys.deregistered ++ [conn] }

def step (sys : RegSystem) : RegAction → Option RegSystem
  | .register conn entry =>
      if sys.task conn = .unborn then
        some (sys.move conn (sys.reg.insertConnection conn entry)
          .insertingStreams)
      else
        none
  | .subscribe conn stream =>
      if sys.task conn = .ready then
        match sys.reg.connStreams.lookup conn with
        | none => some sys
        | some held =>
            if stream ∈ held then
              some sys
            else
              some (sys.move conn sys.reg (.pushing stream))
      else
        none
  | .unsubscribe conn stream =>
      if sys.task conn = .ready ∧ sys.readLocked stream = false then
        some (sys.move conn (sys.reg.retainSubscribers stream conn)
          (if sys.reg.shouldRemove stream conn then
            .pruning stream
          else
            .forgetting stream))
      else
        none
  | .deregister conn =>
      if sys.task conn = .ready then
        some (sys.taskDeregister conn .takeStreams)
      else
        none
  | .advance conn => sys.advance conn
  | .fanout stream =>
      if sys.fan = .idle then
        match sys.reg.streams.lookup stream with
        | none => some sys
        | some subscribers =>
            some { sys with fan := .scanning stream subscribers [] }
      else
        none
  | .deliver accepted =>
      match sys.fan with
      | .scanning stream (conn :: todo) evicted =>
          if conn ∈ sys.reg.connections ∧ accepted = false then
            some { sys with
              fan := .scanning stream todo (evicted ++ [conn]) }
          else
            some { sys with fan := .scanning stream todo evicted }
      | _ => none
  | .release =>
      match sys.fan with
      | .scanning _ [] evicted =>
          some { sys with fan := evictNext evicted }
      | _ => none
  | .evict =>
      match sys.fan with
      | .evicting conn pc rest =>
          if pc = .takeStreams ∧ sys.connStreamsLocked conn = true then
            none
          else
            some (sys.fanDeregister conn pc rest)
      | _ => none

theorem taskDeregister_fan (sys : RegSystem) (conn : ConnId) (pc : DeregPc) :
    (sys.taskDeregister conn pc).fan = sys.fan := by
  rw [taskDeregister]
  split <;> rfl

theorem taskDeregister_task_of_ne (sys : RegSystem)
    {conn other : ConnId} (different : other ≠ conn) (pc : DeregPc) :
    (sys.taskDeregister conn pc).task other = sys.task other := by
  rw [taskDeregister]
  split <;> exact Function.update_of_ne different ..

theorem taskDeregister_reg (sys : RegSystem) (conn : ConnId) (pc : DeregPc) :
    (sys.taskDeregister conn pc).reg = (deregStep sys.reg conn pc).1 := by
  rw [taskDeregister]
  split <;> simp_all [move]

theorem fanDeregister_task (sys : RegSystem) (conn : ConnId) (pc : DeregPc)
    (rest : List ConnId) :
    (sys.fanDeregister conn pc rest).task = sys.task := by
  rw [fanDeregister]
  split <;> rfl

theorem fanDeregister_reg (sys : RegSystem) (conn : ConnId) (pc : DeregPc)
    (rest : List ConnId) :
    (sys.fanDeregister conn pc rest).reg = (deregStep sys.reg conn pc).1 := by
  rw [fanDeregister]
  split <;> simp_all

/-! ## Inversion -/

/-- The moves of the system, one constructor for each branch of `step`. -/
inductive Steps (sys : RegSystem) : RegAction → RegSystem → Prop
  | register (conn : ConnId) (entry : ConnectionEntry) :
      sys.task conn = .unborn →
      Steps sys (.register conn entry)
        (sys.move conn (sys.reg.insertConnection conn entry)
          .insertingStreams)
  | subscribeIgnored (conn : ConnId) (stream : String) :
      sys.task conn = .ready →
      (∀ held, sys.reg.connStreams.lookup conn = some held →
        stream ∈ held) →
      Steps sys (.subscribe conn stream) sys
  | subscribe (conn : ConnId) (stream : String) (held : List String) :
      sys.task conn = .ready →
      sys.reg.connStreams.lookup conn = some held → stream ∉ held →
      Steps sys (.subscribe conn stream)
        (sys.move conn sys.reg (.pushing stream))
  | unsubscribe (conn : ConnId) (stream : String) :
      sys.task conn = .ready → sys.readLocked stream = false →
      Steps sys (.unsubscribe conn stream)
        (sys.move conn (sys.reg.retainSubscribers stream conn)
          (if sys.reg.shouldRemove stream conn then
            .pruning stream
          else
            .forgetting stream))
  | deregister (conn : ConnId) :
      sys.task conn = .ready →
      Steps sys (.deregister conn) (sys.taskDeregister conn .takeStreams)
  | insertConnStreams (conn : ConnId) :
      sys.task conn = .insertingStreams →
      Steps sys (.advance conn)
        (sys.move conn (sys.reg.insertConnStreams conn) .countingUp)
  | countUp (conn : ConnId) :
      sys.task conn = .countingUp →
      Steps sys (.advance conn) (sys.move conn sys.reg.countUp .ready)
  | push (conn : ConnId) (stream : String) :
      sys.task conn = .pushing stream → sys.readLocked stream = false →
      Steps sys (.advance conn)
        (sys.move conn (sys.reg.pushSubscriber stream conn)
          (.recording stream))
  | record (conn : ConnId) (stream : String) :
      sys.task conn = .recording stream →
      Steps sys (.advance conn)
        (sys.move conn (sys.reg.pushConnStream conn stream) .ready)
  | prune (conn : ConnId) (stream : String) :
      sys.task conn = .pruning stream → sys.readLocked stream = false →
      Steps sys (.advance conn)
        (sys.move conn (sys.reg.removeIfEmpty stream) (.forgetting stream))
  | forget (conn : ConnId) (stream : String) :
      sys.task conn = .forgetting stream →
      Steps sys (.advance conn)
        (sys.move conn (sys.reg.forgetConnStream conn stream) .ready)
  | deregStep (conn : ConnId) (pc : DeregPc) :
      sys.task conn = .deregistering pc →
      (∀ stream, pc.writes = some stream → sys.readLocked stream = false) →
      Steps sys (.advance conn) (sys.taskDeregister conn pc)
  | fanoutMissing (stream : String) :
      sys.fan = .idle → sys.reg.streams.lookup stream = none →
      Steps sys (.fanout stream) sys
  | fanout (stream : String) (subscribers : List ConnId) :
      sys.fan = .idle →
      sys.reg.streams.lookup stream = some subscribers →
      Steps sys (.fanout stream)
        { sys with fan := .scanning stream subscribers [] }
  | refused (stream : String) (conn : ConnId) (todo evicted : List ConnId) :
      sys.fan = .scanning stream (conn :: todo) evicted →
      conn ∈ sys.reg.connections →
      Steps sys (.deliver false)
        { sys with fan := .scanning stream todo (evicted ++ [conn]) }
  | passed (stream : String) (conn : ConnId) (todo evicted : List ConnId)
      (accepted : Bool) :
      sys.fan = .scanning stream (conn :: todo) evicted →
      (conn ∈ sys.reg.connections → accepted = true) →
      Steps sys (.deliver accepted)
        { sys with fan := .scanning stream todo evicted }
  | release (stream : String) (evicted : List ConnId) :
      sys.fan = .scanning stream [] evicted →
      Steps sys .release { sys with fan := evictNext evicted }
  | evict (conn : ConnId) (pc : DeregPc) (rest : List ConnId) :
      sys.fan = .evicting conn pc rest →
      (pc = .takeStreams → sys.connStreamsLocked conn = false) →
      Steps sys .evict (sys.fanDeregister conn pc rest)

variable {sys next : RegSystem}

private theorem steps_of_advance {conn : ConnId}
    (moved : sys.advance conn = some next) :
    Steps sys (.advance conn) next := by
  rw [advance] at moved
  split at moved
  case h_1 here =>
    obtain rfl := Option.some.inj moved
    exact .insertConnStreams conn here
  case h_2 here =>
    obtain rfl := Option.some.inj moved
    exact .countUp conn here
  case h_3 stream here =>
    split at moved
    · cases moved
    · rename_i unlocked
      obtain rfl := Option.some.inj moved
      exact .push conn stream here (by simpa using unlocked)
  case h_4 stream here =>
    obtain rfl := Option.some.inj moved
    exact .record conn stream here
  case h_5 stream here =>
    split at moved
    · cases moved
    · rename_i unlocked
      obtain rfl := Option.some.inj moved
      exact .prune conn stream here (by simpa using unlocked)
  case h_6 stream here =>
    obtain rfl := Option.some.inj moved
    exact .forget conn stream here
  case h_7 pc here =>
    split at moved
    · cases moved
    · rename_i unlocked
      obtain rfl := Option.some.inj moved
      refine .deregStep conn pc here (fun stream writes => ?_)
      simpa [writes] using unlocked
  case h_8 =>
    cases moved

theorem steps_of_step {action : RegAction}
    (moved : sys.step action = some next) :
    Steps sys action next := by
  cases action with
  | register conn entry =>
      simp only [step] at moved
      split at moved
      · rename_i unborn
        obtain rfl := Option.some.inj moved
        exact .register conn entry unborn
      · cases moved
  | subscribe conn stream =>
      simp only [step] at moved
      split at moved
      · rename_i ready
        split at moved
        · rename_i missing
          obtain rfl := Option.some.inj moved
          refine .subscribeIgnored conn stream ready (fun held present => ?_)
          rw [missing] at present
          cases present
        · rename_i held present
          split at moved
          · rename_i already
            obtain rfl := Option.some.inj moved
            refine .subscribeIgnored conn stream ready (fun other same => ?_)
            obtain rfl := Option.some.inj (present.symm.trans same)
            exact already
          · rename_i absent
            obtain rfl := Option.some.inj moved
            exact .subscribe conn stream held ready present absent
      · cases moved
  | unsubscribe conn stream =>
      simp only [step] at moved
      split at moved
      · rename_i enabled
        obtain rfl := Option.some.inj moved
        exact .unsubscribe conn stream enabled.1 enabled.2
      · cases moved
  | deregister conn =>
      simp only [step] at moved
      split at moved
      · rename_i ready
        obtain rfl := Option.some.inj moved
        exact .deregister conn ready
      · cases moved
  | advance conn =>
      exact steps_of_advance moved
  | fanout stream =>
      simp only [step] at moved
      split at moved
      · rename_i idle
        split at moved
        · rename_i missing
          obtain rfl := Option.some.inj moved
          exact .fanoutMissing stream idle missing
        · rename_i subscribers present
          obtain rfl := Option.some.inj moved
          exact .fanout stream subscribers idle present
      · cases moved
  | deliver accepted =>
      simp only [step] at moved
      split at moved
      · rename_i stream conn todo evicted here
        split at moved
        · rename_i both
          obtain rfl := Option.some.inj moved
          obtain ⟨present, rfl⟩ := both
          exact .refused stream conn todo evicted here present
        · rename_i notBoth
          obtain rfl := Option.some.inj moved
          refine .passed stream conn todo evicted accepted here ?_
          intro present
          simpa [present] using notBoth
      · cases moved
  | release =>
      simp only [step] at moved
      split at moved
      · rename_i stream evicted here
        obtain rfl := Option.some.inj moved
        exact .release stream evicted here
      · cases moved
  | evict =>
      simp only [step] at moved
      split at moved
      · rename_i conn pc rest here
        split at moved
        · cases moved
        · rename_i free
          obtain rfl := Option.some.inj moved
          refine .evict conn pc rest here (fun atTake => ?_)
          simpa [atTake] using free
      · cases moved

end RegSystem

end TurbocableServer.Connection
