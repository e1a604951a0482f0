import TurbocableServer.Connection.Registry
import TurbocableServer.Foundations.LockPrograms

/-!
# The shard locks of the registry

Each of the registry's three maps is a `DashMap`: its keys are spread over
shards, and every access holds a read or a write lock on the shard of its key
for as long as the guard lives.  Here the calls of `connection/registry.rs` are
written out as programs over these locks.  Two of them hold a guard while they
take another: `subscribe` locks `streams` under a `conn_streams` guard, and
`fanout_encoded` locks `connections` under a `streams` guard.

The shard of a key is arbitrary, so keys may share a lock in any way.
-/

namespace TurbocableServer.Connection

open Foundations

/-- The shard of every key, map by map. -/
structure Shards where
  connections : ConnId → Nat
  streams : String → Nat
  connStreams : ConnId → Nat

/-- The lock of one shard of one map. -/
inductive RegistryLock where
  | connStreams (shard : Nat)
  | streams (shard : Nat)
  | connections (shard : Nat)
  deriving DecidableEq, Repr

/-- The order in which the registry nests its maps. -/
def RegistryLock.rank : RegistryLock → Nat
  | .connStreams _ => 0
  | .streams _ => 1
  | .connections _ => 2

inductive RegistryCall where
  | register (conn : ConnId) (entry : ConnectionEntry)
  | deregister (conn : ConnId)
  | subscribe (conn : ConnId) (stream : String)
  | unsubscribe (conn : ConnId) (stream : String)
  | fanoutEncoded (stream : String)

abbrev RegistryProgram := LockProgram Registry RegistryLock

namespace Shards

/-! ## The calls as programs -/

/-- The guard of `get_mut` is dropped before `remove_if` locks the shard
again. -/
def removeSubscriberFromStream (shards : Shards) (stream : String)
    (conn : ConnId) (next : RegistryProgram) : RegistryProgram :=
  .access (.streams (shards.streams stream)) .write
    (fun registry => registry.retainSubscribers stream conn)
    (fun found =>
      if found.shouldRemove stream conn then
        .access (.streams (shards.streams stream)) .write
          (fun registry => registry.removeIfEmpty stream)
          (fun _ => next)
      else
        next)

def register (shards : Shards) (conn : ConnId) (entry : ConnectionEntry) :
    RegistryProgram :=
  .access (.connections (shards.connections conn)) .write
    (fun registry => registry.insertConnection conn entry)
    (fun _ =>
      .access (.connStreams (shards.connStreams conn)) .write
        (fun registry => registry.insertConnStreams conn)
        (fun _ => .act Registry.countUp (fun _ => .done)))

def detachAll (shards : Shards) (conn : ConnId) :
    List String → RegistryProgram → RegistryProgram
  | [], next => next
  | stream :: rest, next =>
      shards.removeSubscriberFromStream stream conn
        (shards.detachAll conn rest next)

/-- `conn_streams.remove` hands out the list itself, so no guard is held during
the loop over it. -/
def deregister (shards : Shards) (conn : ConnId) (next : RegistryProgram) :
    RegistryProgram :=
  .access (.connStreams (shards.connStreams conn)) .write
    (fun registry => registry.removeConnStreams conn)
    (fun found =>
      shards.detachAll conn (found.streamsOf conn)
        (.access (.connections (shards.connections conn)) .write
          (fun registry => registry.removeConnection conn)
          (fun found =>
            if conn ∈ found.connections then
              .act Registry.countDown (fun _ => next)
            else
              next)))

/-- The `conn_streams` guard is held until the end, over the access to
`streams`. -/
def subscribe (shards : Shards) (conn : ConnId) (stream : String) :
    RegistryProgram :=
  .acquire (.connStreams (shards.connStreams conn)) .write
    (.act id (fun found =>
      match found.connStreams.lookup conn with
      | none => .release .done
      | some held =>
          if stream ∈ held then
            .release .done
          else
            .access (.streams (shards.streams stream)) .write
              (fun registry => registry.pushSubscriber stream conn)
              (fun _ =>
                .act (fun registry => registry.pushConnStream conn stream)
                  (fun _ => .release .done))))

def unsubscribe (shards : Shards) (conn : ConnId) (stream : String) :
    RegistryProgram :=
  shards.removeSubscriberFromStream stream conn
    (.access (.connStreams (shards.connStreams conn)) .write
      (fun registry => registry.forgetConnStream conn stream)
      (fun _ => .done))

/-- The subscriber loop of `fanout_encoded`.  Whether `try_send` takes the
payload is for the connection's channel to say. -/
def deliverAll (shards : Shards) (next : List ConnId → RegistryProgram) :
    List ConnId → List ConnId → RegistryProgram
  | [], evicted => next evicted
  | conn :: rest, evicted =>
      .acquire (.connections (shards.connections conn)) .read
        (.act id (fun found =>
          if conn ∈ found.connections then
            .choose (fun accepted =>
              .release
                (shards.deliverAll next rest
                  (if accepted then evicted else evicted ++ [conn])))
          else
            .release (shards.deliverAll next rest evicted)))

def deregisterAll (shards : Shards) : List ConnId → RegistryProgram
  | [] => .done
  | conn :: rest => shards.deregister conn (shards.deregisterAll rest)

def fanoutEncoded (shards : Shards) (stream : String) : RegistryProgram :=
  .acquire (.streams (shards.streams stream)) .read
    (.act id (fun found =>
      match found.streams.lookup stream with
      | none => .release .done
      | some subscribers =>
          shards.deliverAll
            (fun evicted => .release (shards.deregisterAll evicted))
            subscribers []))

def program (shards : Shards) : RegistryCall → RegistryProgram
  | .register conn entry => shards.register conn entry
  | .deregister conn => shards.deregister conn .done
  | .subscribe conn stream => shards.subscribe conn stream
  | .unsubscribe conn stream => shards.unsubscribe conn stream
  | .fanoutEncoded stream => shards.fanoutEncoded stream

/-! ## Run alone, a program does what the call does -/

variable (shards : Shards) (registry : Registry) (answers : List Bool)

@[simp]
theorem eval_removeSubscriberFromStream (stream : String) (conn : ConnId)
    (next : RegistryProgram) :
    (shards.removeSubscriberFromStream stream conn next).eval answers
        registry =
      next.eval answers
        (registry.removeSubscriberFromStream stream conn) := by
  rw [removeSubscriberFromStream, LockProgram.eval_access,
    Registry.removeSubscriberFromStream]
  split
  · rfl
  · rfl

theorem eval_register (conn : ConnId) (entry : ConnectionEntry) :
    (shards.register conn entry).eval answers registry =
      registry.register conn entry :=
  rfl

theorem eval_detachAll (conn : ConnId) (streams : List String)
    (next : RegistryProgram) :
    (shards.detachAll conn streams next).eval answers registry =
      next.eval answers (Registry.detachAll conn streams registry) := by
  induction streams generalizing registry with
  | nil =>
      rfl
  | cons stream rest ih =>
      rw [detachAll, eval_removeSubscriberFromStream, ih,
        Registry.detachAll]

theorem eval_deregister (conn : ConnId) (next : RegistryProgram) :
    (shards.deregister conn next).eval answers registry =
      next.eval answers (registry.deregister conn) := by
  rw [deregister, LockProgram.eval_access, eval_detachAll,
    LockProgram.eval_access, Registry.deregister, Registry.dropConnection]
  split
  · rfl
  · rfl

theorem eval_subscribe (conn : ConnId) (stream : String) :
    (shards.subscribe conn stream).eval answers registry =
      registry.subscribe conn stream := by
  simp only [subscribe, LockProgram.eval, Registry.subscribe, id_eq]
  cases registry.connStreams.lookup conn with
  | none =>
      rfl
  | some held =>
      by_cases already : stream ∈ held
      · simp [already, LockProgram.eval]
      · simp [already, LockProgram.eval]

theorem eval_unsubscribe (conn : ConnId) (stream : String) :
    (shards.unsubscribe conn stream).eval answers registry =
      registry.unsubscribe conn stream := by
  rw [unsubscribe, eval_removeSubscriberFromStream]
  rfl

theorem eval_deregisterAll (evicted : List ConnId) :
    (shards.deregisterAll evicted).eval answers registry =
      evicted.foldl Registry.deregister registry := by
  induction evicted generalizing registry with
  | nil =>
      rfl
  | cons conn rest ih =>
      rw [deregisterAll, eval_deregister, ih,
        List.foldl_cons]

/-- One turn of the subscriber loop evicts nobody, or its subscriber. -/
theorem deliverTo_evicted {β : Type} {registry : Registry}
    {jsonPayload binaryPayload : β} {scan : FanoutScan β} {conn : ConnId} :
    (conn ∉ registry.connections ∧
        deliverTo registry jsonPayload binaryPayload scan conn = scan) ∨
      (conn ∈ registry.connections ∧
        ∃ accepted : Bool,
          (deliverTo registry jsonPayload binaryPayload scan conn).evicted =
            if accepted then scan.evicted else scan.evicted ++ [conn]) := by
  rw [Table.mem_iff_isSome, deliverTo]
  cases registry.connections.lookup conn with
  | none =>
      exact Or.inl ⟨by simp, rfl⟩
  | some entry =>
      refine Or.inr ⟨rfl, ?_⟩
      simp only
      split
      · exact ⟨true, rfl⟩
      · exact ⟨false, rfl⟩

/-- With the outcomes of `try_send` as answers, the loop evicts the same
connections. -/
theorem eval_deliverAll {β : Type} (jsonPayload binaryPayload : β)
    (next : List ConnId → RegistryProgram) (subscribers : List ConnId)
    (scan : FanoutScan β) :
    ∃ answers : List Bool, ∀ more,
      (shards.deliverAll next subscribers scan.evicted).eval
          (answers ++ more) registry =
        (next
          (subscribers.foldl
            (deliverTo registry jsonPayload binaryPayload) scan).evicted).eval
          more registry := by
  induction subscribers generalizing scan with
  | nil =>
      exact ⟨[], fun more => rfl⟩
  | cons conn rest ih =>
      obtain ⟨answers, agrees⟩ :=
        ih
          (deliverTo registry jsonPayload binaryPayload scan conn)
      rcases @deliverTo_evicted β registry jsonPayload binaryPayload scan
          conn with
        ⟨absent, unchanged⟩ | ⟨present, accepted, isEvicted⟩
      · refine ⟨answers, fun more => ?_⟩
        rw [unchanged] at agrees
        rw [List.foldl_cons, unchanged, ← agrees more]
        simp only [deliverAll, LockProgram.eval, if_neg absent, id_eq]
      · refine ⟨accepted :: answers, fun more => ?_⟩
        rw [isEvicted] at agrees
        rw [List.foldl_cons, ← agrees more]
        simp only [deliverAll, LockProgram.eval, if_pos present, id_eq]
        rfl

theorem eval_fanoutEncoded {β : Type} (channels : Channels β)
    (stream : String) (jsonPayload binaryPayload : β) :
    ∃ answers,
      (shards.fanoutEncoded stream).eval answers registry =
        (registry.fanoutEncoded channels stream jsonPayload
          binaryPayload).1 := by
  simp only [fanoutEncoded, LockProgram.eval, id_eq, Registry.fanoutEncoded,
    scanSubscribers, Registry.subscribers]
  cases registry.streams.lookup stream with
  | none =>
      exact ⟨[], rfl⟩
  | some subscribers =>
      obtain ⟨answers, agrees⟩ :=
        shards.eval_deliverAll registry jsonPayload binaryPayload
          (fun evicted => .release (shards.deregisterAll evicted))
          subscribers ⟨channels, 0, []⟩
      refine ⟨answers, ?_⟩
      have alone := agrees []
      rw [List.append_nil] at alone
      rw [alone, LockProgram.eval, eval_deregisterAll]
      rfl

/-! ## The calls take their locks in order -/

variable {next : RegistryProgram}

theorem ordered_removeSubscriberFromStream (stream : String) (conn : ConnId)
    (ordered : next.Ordered RegistryLock.rank []) :
    (shards.removeSubscriberFromStream stream conn next).Ordered
      RegistryLock.rank [] := by
  refine LockProgram.ordered_access (by simp) (fun found => ?_)
  split
  · exact LockProgram.ordered_access (by simp) (fun _ => ordered)
  · exact ordered

theorem ordered_detachAll (conn : ConnId) (streams : List String)
    (ordered : next.Ordered RegistryLock.rank []) :
    (shards.detachAll conn streams next).Ordered RegistryLock.rank [] := by
  induction streams with
  | nil =>
      exact ordered
  | cons stream rest ih =>
      exact shards.ordered_removeSubscriberFromStream stream conn ih

theorem ordered_deregister (conn : ConnId)
    (ordered : next.Ordered RegistryLock.rank []) :
    (shards.deregister conn next).Ordered RegistryLock.rank [] := by
  refine LockProgram.ordered_access (by simp) (fun found => ?_)
  refine shards.ordered_detachAll conn _ ?_
  refine LockProgram.ordered_access (by simp) (fun found => ?_)
  split
  · exact fun _ => ordered
  · exact ordered

theorem ordered_register (conn : ConnId) (entry : ConnectionEntry) :
    (shards.register conn entry).Ordered RegistryLock.rank [] :=
  LockProgram.ordered_access (by simp)
    (fun _ => LockProgram.ordered_access (by simp) (fun _ _ => rfl))

theorem ordered_unsubscribe (conn : ConnId) (stream : String) :
    (shards.unsubscribe conn stream).Ordered RegistryLock.rank [] :=
  shards.ordered_removeSubscriberFromStream stream conn
    (LockProgram.ordered_access (by simp) (fun _ => rfl))

/-- `streams` ranks above the `conn_streams` guard that is held. -/
theorem ordered_subscribe (conn : ConnId) (stream : String) :
    (shards.subscribe conn stream).Ordered RegistryLock.rank [] := by
  refine ⟨by simp, fun found => ?_⟩
  dsimp only
  split
  · exact ⟨_, [], rfl, rfl⟩
  · split
    · exact ⟨_, [], rfl, rfl⟩
    · refine LockProgram.ordered_access ?_ (fun _ _ => ⟨_, [], rfl, rfl⟩)
      simp [RegistryLock.rank]

theorem ordered_deregisterAll (evicted : List ConnId) :
    (shards.deregisterAll evicted).Ordered RegistryLock.rank [] := by
  induction evicted with
  | nil =>
      rfl
  | cons conn rest ih =>
      exact shards.ordered_deregister conn ih

/-- `connections` ranks above the `streams` guard that is held. -/
theorem ordered_deliverAll {next : List ConnId → RegistryProgram}
    {shard : Nat}
    (ordered :
      ∀ evicted,
        (next evicted).Ordered RegistryLock.rank [(.streams shard, .read)])
    (subscribers evicted : List ConnId) :
    (shards.deliverAll next subscribers evicted).Ordered RegistryLock.rank
      [(.streams shard, .read)] := by
  induction subscribers generalizing evicted with
  | nil =>
      exact ordered evicted
  | cons conn rest ih =>
      refine ⟨by simp [RegistryLock.rank], fun found => ?_⟩
      dsimp only
      split
      · exact fun accepted => ⟨_, _, rfl, ih _⟩
      · exact ⟨_, _, rfl, ih _⟩

/-- The guard on the subscriber list is given back before the evicted
connections are deregistered. -/
theorem ordered_fanoutEncoded (stream : String) :
    (shards.fanoutEncoded stream).Ordered RegistryLock.rank [] := by
  refine ⟨by simp, fun found => ?_⟩
  dsimp only
  split
  · exact ⟨_, [], rfl, rfl⟩
  · refine shards.ordered_deliverAll (fun evicted => ?_) _ _
    exact ⟨_, [], rfl, shards.ordered_deregisterAll evicted⟩

theorem ordered_program (call : RegistryCall) :
    (shards.program call).Ordered RegistryLock.rank [] := by
  cases call with
  | register conn entry => exact shards.ordered_register conn entry
  | deregister conn => exact shards.ordered_deregister conn rfl
  | subscribe conn stream => exact shards.ordered_subscribe conn stream
  | unsubscribe conn stream => exact shards.ordered_unsubscribe conn stream
  | fanoutEncoded stream => exact shards.ordered_fanoutEncoded stream

/-- Wherever the calls have come to, all of them can run to their ends. -/
theorem registry_finishes {registry : Registry}
    {sys : LockSystem Registry RegistryLock}
    (run :
      Reaches (LockSystem.step shards.program) (fun _ _ => True)
        (.start registry) sys) :
    ∃ finished,
      Reaches (LockSystem.step shards.program) (fun _ _ => True) sys finished ∧
        ∀ task, task ∈ finished.tasks → task.program.isDone = true := by
  have ordered := LockSystem.ordered_of_reaches shards.ordered_program run
  exact ordered.exists_finished shards.ordered_program
    (fun _ _ _ => trivial)

/-- The registry does not deadlock: wherever its calls have come to, if one is
not at its end, then one can make its next step, however keys are spread over
shards and whoever waits for whom. -/
theorem registry_progress {registry : Registry}
    {allowed :
      LockSystem Registry RegistryLock → LockAction RegistryCall → Prop}
    {sys : LockSystem Registry RegistryLock}
    (run :
      Reaches (LockSystem.step shards.program) allowed (.start registry) sys)
    {task : LockTask Registry RegistryLock} (member : task ∈ sys.tasks)
    (unfinished : task.program.isDone = false) :
    ∃ index able,
      sys.tasks[index]? = some able ∧ sys.CanStep able ∧
        ∀ answer,
          (LockSystem.step shards.program sys
            (.advance index answer)).isSome :=
  LockSystem.progress shards.ordered_program run member unfinished

/-! ### Three calls nested in one another

With one shard per map, `unsubscribe` waits for `streams`, which `fanout_encoded`
reads, and so does `subscribe`, which has `conn_streams` meanwhile. -/

def oneShardEach : Shards :=
  ⟨fun _ => 0, fun _ => 0, fun _ => 0⟩

def nestedCalls : List (LockAction RegistryCall) :=
  [.spawn (.register 1 ⟨0, 0, false⟩),
    .advance 0 true, .advance 0 true, .advance 0 true, .advance 0 true,
    .advance 0 true, .advance 0 true, .advance 0 true,
    .spawn (.subscribe 1 "news"), .spawn (.unsubscribe 1 "news"),
    .spawn (.fanoutEncoded "news"),
    .advance 3 true, .advance 1 true, .advance 1 true]

def nested : LockSystem Registry RegistryLock :=
  (execute (LockSystem.step oneShardEach.program) (fun _ _ => True)
    (.start .new) nestedCalls).get (by decide)

theorem registry_progress_nested :
    nested.tasks[1]?.any
        (fun task => task.program.wants = some (.streams 0, .write)) ∧
      nested.tasks[2]?.any
        (fun task => task.program.wants = some (.streams 0, .write)) ∧
      ∃ index able,
        nested.tasks[index]? = some able ∧ nested.CanStep able ∧
          ∀ answer,
            (LockSystem.step oneShardEach.program nested
              (.advance index answer)).isSome := by
  have inside : 1 < nested.tasks.length := by decide
  exact ⟨by decide, by decide,
    oneShardEach.registry_progress (reaches_execute_get _)
      (List.getElem_mem inside) rfl⟩

end Shards

end TurbocableServer.Connection
