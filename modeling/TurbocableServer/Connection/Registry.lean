import Mathlib.Tactic.Simps.Basic
import TurbocableServer.Foundations.BoundedChannel
import TurbocableServer.Foundations.Table

/-!
# Connection registry

The three maps and the counter of `connection/registry.rs`.  Every access the
source makes to one map is a definition of its own, and the public operations
are composed from these; the interleaved model of the registry uses the same
accesses as its atomic steps.

A sender handle is the address of a channel.  The channels themselves live
outside the registry, because a connection's receivers and the handler's own
sender clones outlive its registry entry.
-/

namespace TurbocableServer.Connection

open Foundations

/-- Connection ids (`u64`).  Ids are handed out once, so the wrap-around of
the counter after `2 ^ 64` allocations is not represented. -/
abbrev ConnId := Nat

/-- Address of a channel. -/
abbrev ChanId := Nat

/-- Per-connection metadata: the live sender, the capacity-one eviction sender
and the codec flag. -/
structure ConnectionEntry where
  sender : ChanId
  evictTx : ChanId
  isBinary : Bool
  deriving DecidableEq, Repr

/-- The registry.  `active` is an integer so that a decrement below zero would
show. -/
structure Registry where
  connections : Table ConnId ConnectionEntry
  streams : Table String (List ConnId)
  connStreams : Table ConnId (List String)
  nextId : Nat
  active : Int

namespace Registry

/-- The empty registry of `Registry::new`. -/
def new : Registry where
  connections := ∅
  streams := ∅
  connStreams := ∅
  nextId := 1
  active := 0

/-- The next id and the registry that will not hand it out again. -/
def allocateId (registry : Registry) : ConnId × Registry :=
  (registry.nextId, { registry with nextId := registry.nextId + 1 })

/-- Subscriber list of a stream; absent and empty entries read alike. -/
def subscribers (registry : Registry) (stream : String) : List ConnId :=
  (registry.streams.lookup stream).getD []

/-- Stream list of a connection. -/
def streamsOf (registry : Registry) (conn : ConnId) : List String :=
  (registry.connStreams.lookup conn).getD []

/-! ## Single map accesses -/

/-- `connections.insert`. -/
@[simps]
def insertConnection
    (registry : Registry) (conn : ConnId) (entry : ConnectionEntry) :
    Registry :=
  { registry with connections := registry.connections.insert conn entry }

/-- `conn_streams.insert` with an empty list. -/
@[simps]
def insertConnStreams (registry : Registry) (conn : ConnId) : Registry :=
  { registry with connStreams := registry.connStreams.insert conn [] }

/-- `active.fetch_add(1)`. -/
@[simps]
def countUp (registry : Registry) : Registry :=
  { registry with active := registry.active + 1 }

/-- `active.fetch_sub(1)`. -/
@[simps]
def countDown (registry : Registry) : Registry :=
  { registry with active := registry.active - 1 }

/-- `conn_streams.remove`. -/
@[simps]
def removeConnStreams (registry : Registry) (conn : ConnId) : Registry :=
  { registry with connStreams := registry.connStreams.erase conn }

/-- `connections.remove`. -/
@[simps]
def removeConnection (registry : Registry) (conn : ConnId) : Registry :=
  { registry with connections := registry.connections.erase conn }

/-- `streams.entry(stream).or_default().push(conn)`. -/
@[simps]
def pushSubscriber
    (registry : Registry) (stream : String) (conn : ConnId) : Registry :=
  { registry with
    streams :=
      Table.upsert registry.streams stream []
        (fun subscribers => subscribers ++ [conn]) }

/-- The push through the `conn_streams` guard at the end of `subscribe`. -/
@[simps]
def pushConnStream
    (registry : Registry) (conn : ConnId) (stream : String) : Registry :=
  { registry with
    connStreams :=
      Table.modify registry.connStreams conn
        (fun held => held ++ [stream]) }

/-- `conn_streams.get_mut(conn)` with `retain(|s| s != stream)`. -/
@[simps]
def forgetConnStream
    (registry : Registry) (conn : ConnId) (stream : String) : Registry :=
  { registry with
    connStreams :=
      Table.modify registry.connStreams conn
        (fun held => held.filter (· ≠ stream)) }

/-- `streams.get_mut(stream)` with `retain(|id| *id != conn)`. -/
@[simps]
def retainSubscribers
    (registry : Registry) (stream : String) (conn : ConnId) : Registry :=
  { registry with
    streams :=
      Table.modify registry.streams stream
        (fun subscribers => subscribers.filter (· ≠ conn)) }

/-- The value of `should_remove`: the stream had an entry and it is empty
after the retain. -/
def shouldRemove
    (registry : Registry) (stream : String) (conn : ConnId) : Bool :=
  match registry.streams.lookup stream with
  | some subscribers => (subscribers.filter (· ≠ conn)).isEmpty
  | none => false

/-- `streams.remove_if(stream, |_, v| v.is_empty())`. -/
def removeIfEmpty (registry : Registry) (stream : String) : Registry :=
  match registry.streams.lookup stream with
  | some [] => { registry with streams := registry.streams.erase stream }
  | _ => registry

/-! ### What the accesses show -/

theorem subscribers_congr {left right : Registry}
    (same : left.streams = right.streams) (stream : String) :
    left.subscribers stream = right.subscribers stream := by
  rw [subscribers, subscribers, same]

theorem streamsOf_congr {left right : Registry}
    (same : left.connStreams = right.connStreams) (conn : ConnId) :
    left.streamsOf conn = right.streamsOf conn := by
  rw [streamsOf, streamsOf, same]

theorem subscribers_pushSubscriber
    (registry : Registry) (stream tested : String) (conn : ConnId) :
    (registry.pushSubscriber stream conn).subscribers tested =
      if tested = stream then registry.subscribers stream ++ [conn]
      else registry.subscribers tested := by
  simp only [subscribers, pushSubscriber_streams, Table.lookup_upsert]
  split <;> rfl

theorem subscribers_retainSubscribers
    (registry : Registry) (stream tested : String) (conn : ConnId) :
    (registry.retainSubscribers stream conn).subscribers tested =
      if tested = stream then
        (registry.subscribers stream).filter (· ≠ conn)
      else registry.subscribers tested := by
  simp only [subscribers, retainSubscribers_streams, Table.lookup_modify]
  split
  · cases registry.streams.lookup stream <;> rfl
  · rfl

theorem mem_subscribers_pushSubscriber
    (registry : Registry) (stream tested : String) (conn other : ConnId) :
    other ∈ (registry.pushSubscriber stream conn).subscribers tested ↔
      tested = stream ∧ other = conn ∨
        other ∈ registry.subscribers tested := by
  rw [subscribers_pushSubscriber]
  by_cases same : tested = stream
  · subst same
    simp [or_comm]
  · simp [same]

theorem mem_subscribers_retainSubscribers
    (registry : Registry) (stream tested : String) (conn other : ConnId) :
    other ∈ (registry.retainSubscribers stream conn).subscribers tested ↔
      other ∈ registry.subscribers tested ∧
        ¬ (tested = stream ∧ other = conn) := by
  rw [subscribers_retainSubscribers]
  by_cases same : tested = stream
  · subst same
    simp
  · simp [same]

theorem streams_lookup_removeIfEmpty
    (registry : Registry) (stream tested : String) :
    (registry.removeIfEmpty stream).streams.lookup tested =
      if tested = stream ∧ registry.streams.lookup stream = some [] then
        none
      else registry.streams.lookup tested := by
  unfold removeIfEmpty
  split
  · rename_i empty
    rw [Table.lookup_erase_eq_ite]
    simp [empty]
  · rename_i kept
    have notEmpty : registry.streams.lookup stream ≠ some [] :=
      fun empty => kept empty
    simp [notEmpty]

@[simp]
theorem subscribers_removeIfEmpty
    (registry : Registry) (stream tested : String) :
    (registry.removeIfEmpty stream).subscribers tested =
      registry.subscribers tested := by
  rw [subscribers, streams_lookup_removeIfEmpty, subscribers]
  split
  · rename_i both
    rw [both.1, both.2]
    rfl
  · rfl

@[simp]
theorem removeIfEmpty_connections (registry : Registry) (stream : String) :
    (registry.removeIfEmpty stream).connections =
      registry.connections := by
  unfold removeIfEmpty
  split <;> rfl

@[simp]
theorem removeIfEmpty_connStreams (registry : Registry) (stream : String) :
    (registry.removeIfEmpty stream).connStreams =
      registry.connStreams := by
  unfold removeIfEmpty
  split <;> rfl

@[simp]
theorem removeIfEmpty_nextId (registry : Registry) (stream : String) :
    (registry.removeIfEmpty stream).nextId = registry.nextId := by
  unfold removeIfEmpty
  split <;> rfl

@[simp]
theorem removeIfEmpty_active (registry : Registry) (stream : String) :
    (registry.removeIfEmpty stream).active = registry.active := by
  unfold removeIfEmpty
  split <;> rfl

theorem streamsOf_insertConnStreams
    (registry : Registry) (conn tested : ConnId) :
    (registry.insertConnStreams conn).streamsOf tested =
      if tested = conn then [] else registry.streamsOf tested := by
  simp only [streamsOf, insertConnStreams_connStreams,
    Table.lookup_insert_eq_ite]
  split <;> rfl

theorem streamsOf_removeConnStreams
    (registry : Registry) (conn tested : ConnId) :
    (registry.removeConnStreams conn).streamsOf tested =
      if tested = conn then [] else registry.streamsOf tested := by
  simp only [streamsOf, removeConnStreams_connStreams,
    Table.lookup_erase_eq_ite]
  split <;> rfl

theorem streamsOf_forgetConnStream
    (registry : Registry) (conn tested : ConnId) (stream : String) :
    (registry.forgetConnStream conn stream).streamsOf tested =
      if tested = conn then
        (registry.streamsOf conn).filter (· ≠ stream)
      else registry.streamsOf tested := by
  simp only [streamsOf, forgetConnStream_connStreams, Table.lookup_modify]
  split
  · cases registry.connStreams.lookup conn <;> rfl
  · rfl

theorem streamsOf_pushConnStream
    {registry : Registry} {conn : ConnId} {held : List String}
    (present : registry.connStreams.lookup conn = some held)
    (tested : ConnId) (stream : String) :
    (registry.pushConnStream conn stream).streamsOf tested =
      if tested = conn then held ++ [stream]
      else registry.streamsOf tested := by
  simp only [streamsOf, pushConnStream_connStreams, Table.lookup_modify,
    present]
  split <;> rfl

/-! ## Operations -/

def removeSubscriberFromStream
    (registry : Registry) (stream : String) (conn : ConnId) : Registry :=
  if registry.shouldRemove stream conn then
    (registry.retainSubscribers stream conn).removeIfEmpty stream
  else
    registry.retainSubscribers stream conn

def register
    (registry : Registry) (conn : ConnId) (entry : ConnectionEntry) :
    Registry :=
  ((registry.insertConnection conn entry).insertConnStreams conn).countUp

/-- The loop of `deregister` over the removed stream list. -/
def detachAll (conn : ConnId) : List String → Registry → Registry
  | [], registry => registry
  | stream :: rest, registry =>
      detachAll conn rest
        (registry.removeSubscriberFromStream stream conn)

/-- The last statement of `deregister`: the entry is removed and counted out
only when it was there. -/
def dropConnection (registry : Registry) (conn : ConnId) : Registry :=
  if conn ∈ registry.connections then
    (registry.removeConnection conn).countDown
  else
    registry.removeConnection conn

def deregister (registry : Registry) (conn : ConnId) : Registry :=
  (detachAll conn (registry.streamsOf conn)
    (registry.removeConnStreams conn)).dropConnection conn

def subscribe
    (registry : Registry) (conn : ConnId) (stream : String) : Registry :=
  match registry.connStreams.lookup conn with
  | none => registry
  | some held =>
      if stream ∈ held then
        registry
      else
        (registry.pushSubscriber stream conn).pushConnStream conn stream

def unsubscribe
    (registry : Registry) (conn : ConnId) (stream : String) : Registry :=
  (registry.removeSubscriberFromStream stream conn).forgetConnStream
    conn stream

end Registry

/-! ## Fan-out -/

/-- The channels behind the sender handles: live payloads and eviction
signals. -/
structure Channels (β : Type) where
  live : ChanId → Channel β
  evict : ChanId → Channel Unit

/-- Accumulators of the subscriber loop of `fanout_encoded`. -/
structure FanoutScan (β : Type) where
  channels : Channels β
  sent : Nat
  evicted : List ConnId

structure FanoutResult where
  sent : Nat
  dropped : Nat
  evicted : List ConnId
  deriving DecidableEq, Repr

section Fanout

variable {β : Type}

/-- Best-effort `evict_tx.try_send(())`: a refused signal changes nothing. -/
def Channels.signalEviction (channels : Channels β) (target : ChanId) :
    Channels β :=
  match (channels.evict target).trySend () with
  | some signalled =>
      { channels with
        evict := Function.update channels.evict target signalled }
  | none => channels

@[simp]
theorem Channels.live_signalEviction (channels : Channels β)
    (target : ChanId) :
    (channels.signalEviction target).live = channels.live := by
  rw [signalEviction]
  split <;> rfl

/-- One turn of the subscriber loop. -/
def deliverTo
    (registry : Registry) (jsonPayload binaryPayload : β)
    (scan : FanoutScan β) (conn : ConnId) : FanoutScan β :=
  match registry.connections.lookup conn with
  | none => scan
  | some entry =>
      let payload := if entry.isBinary then binaryPayload else jsonPayload
      match (scan.channels.live entry.sender).trySend payload with
      | some accepted =>
          { scan with
            channels :=
              { scan.channels with
                live :=
                  Function.update scan.channels.live entry.sender accepted }
            sent := scan.sent + 1 }
      | none =>
          { scan with
            channels := scan.channels.signalEviction entry.evictTx
            evicted := scan.evicted ++ [conn] }

/-- The guarded loop over the subscribers of `stream`. -/
def scanSubscribers
    (registry : Registry) (channels : Channels β)
    (stream : String) (jsonPayload binaryPayload : β) : FanoutScan β :=
  (registry.subscribers stream).foldl
    (deliverTo registry jsonPayload binaryPayload)
    { channels := channels, sent := 0, evicted := [] }

/-- Fan-out with one payload per codec: deliver to every subscriber, then
deregister those whose channel refused the payload. -/
def Registry.fanoutEncoded
    (registry : Registry) (channels : Channels β)
    (stream : String) (jsonPayload binaryPayload : β) :
    Registry × Channels β × FanoutResult :=
  let scan :=
    scanSubscribers registry channels stream jsonPayload binaryPayload
  (scan.evicted.foldl Registry.deregister registry,
    scan.channels,
    { sent := scan.sent
      dropped := scan.evicted.length
      evicted := scan.evicted })

end Fanout

end TurbocableServer.Connection
