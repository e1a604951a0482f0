import Mathlib.Data.Finset.Card
import TurbocableServer.Connection.Registry

/-!
# The registry as a relation

What the registry is for, in the plainest terms: a set of live connections and
a set of (connection, stream) pairs.  Every sequence of registry calls keeps
the three maps and the counter a faithful representation of that pair of sets.
-/

namespace TurbocableServer.Connection

open Foundations

/-- The abstract state. -/
structure AbstractRegistry where
  live : Finset ConnId
  pairs : Finset (ConnId × String)

namespace AbstractRegistry

def empty : AbstractRegistry where
  live := ∅
  pairs := ∅

def register (abstract : AbstractRegistry) (conn : ConnId) :
    AbstractRegistry :=
  { abstract with live := insert conn abstract.live }

def subscribe
    (abstract : AbstractRegistry) (conn : ConnId) (stream : String) :
    AbstractRegistry :=
  if conn ∈ abstract.live then
    { abstract with pairs := insert (conn, stream) abstract.pairs }
  else
    abstract

def unsubscribe
    (abstract : AbstractRegistry) (conn : ConnId) (stream : String) :
    AbstractRegistry :=
  { abstract with pairs := abstract.pairs.erase (conn, stream) }

/-- Forget a set of connections and all their pairs. -/
def deregisterAll
    (abstract : AbstractRegistry) (conns : List ConnId) :
    AbstractRegistry where
  live := abstract.live.filter (fun conn => conn ∉ conns)
  pairs := abstract.pairs.filter (fun pair => pair.1 ∉ conns)

/-- A fan-out forgets those subscribers of the stream that refused it. -/
def fanout
    (abstract : AbstractRegistry) (stream : String)
    (refused : List ConnId) : AbstractRegistry :=
  abstract.deregisterAll
    (refused.filter (fun conn => (conn, stream) ∈ abstract.pairs))

end AbstractRegistry

/-- The concrete state represents the abstract one. -/
structure Represents
    (registry : Registry) (abstract : AbstractRegistry) : Prop where
  subscribers_iff :
    ∀ conn stream,
      conn ∈ registry.subscribers stream ↔
        (conn, stream) ∈ abstract.pairs
  streamsOf_iff :
    ∀ conn stream,
      stream ∈ registry.streamsOf conn ↔ (conn, stream) ∈ abstract.pairs
  subscribers_nodup : ∀ stream, (registry.subscribers stream).Nodup
  streamsOf_nodup : ∀ conn, (registry.streamsOf conn).Nodup
  no_empty_entry : ∀ stream, registry.streams.lookup stream ≠ some []
  connections_keys : registry.connections.keys = abstract.live
  connStreams_keys : registry.connStreams.keys = abstract.live
  active_eq : registry.active = (abstract.live.card : Int)

namespace Represents

variable {registry : Registry} {abstract : AbstractRegistry}

theorem connStreams_isSome
    (represents : Represents registry abstract) (conn : ConnId) :
    (registry.connStreams.lookup conn).isSome ↔ conn ∈ abstract.live := by
  rw [← represents.connStreams_keys, Finmap.mem_keys,
    ← Finmap.lookup_isSome]

/-- Only live connections have pairs. -/
theorem live_of_pair
    (represents : Represents registry abstract)
    {conn : ConnId} {stream : String}
    (pair : (conn, stream) ∈ abstract.pairs) :
    conn ∈ abstract.live := by
  rw [← represents.connStreams_isSome conn]
  have held := (represents.streamsOf_iff conn stream).mpr pair
  cases present : registry.connStreams.lookup conn with
  | none =>
      simp [Registry.streamsOf, present] at held
  | some held =>
      rfl

end Represents

theorem new_represents_empty :
    Represents Registry.new AbstractRegistry.empty where
  subscribers_iff := by
    intro conn stream
    simp [Registry.subscribers, Registry.new, AbstractRegistry.empty]
  streamsOf_iff := by
    intro conn stream
    simp [Registry.streamsOf, Registry.new, AbstractRegistry.empty]
  subscribers_nodup := by
    intro stream
    simp [Registry.subscribers, Registry.new]
  streamsOf_nodup := by
    intro conn
    simp [Registry.streamsOf, Registry.new]
  no_empty_entry := by
    intro stream
    simp [Registry.new]
  connections_keys := rfl
  connStreams_keys := rfl
  active_eq := rfl

/-! ## Registration -/

theorem Represents.register
    {registry : Registry} {abstract : AbstractRegistry}
    (represents : Represents registry abstract)
    {conn : ConnId} (fresh : conn ∉ abstract.live)
    (entry : ConnectionEntry) :
    Represents (registry.register conn entry)
      (abstract.register conn) := by
  have noPair : ∀ stream, (conn, stream) ∉ abstract.pairs :=
    fun stream pair => fresh (represents.live_of_pair pair)
  have sameSubscribers :
      ∀ stream,
        (registry.register conn entry).subscribers stream =
          registry.subscribers stream :=
    fun stream => Registry.subscribers_congr rfl stream
  have newStreams :
      ∀ tested,
        (registry.register conn entry).streamsOf tested =
          if tested = conn then [] else registry.streamsOf tested := by
    intro tested
    rw [← Registry.streamsOf_insertConnStreams]
    exact Registry.streamsOf_congr rfl tested
  refine
    { subscribers_iff := ?_, streamsOf_iff := ?_,
      subscribers_nodup := ?_, streamsOf_nodup := ?_,
      no_empty_entry := represents.no_empty_entry,
      connections_keys := ?_, connStreams_keys := ?_, active_eq := ?_ }
  · intro tested stream
    rw [sameSubscribers]
    exact represents.subscribers_iff tested stream
  · intro tested stream
    rw [newStreams]
    by_cases same : tested = conn
    · subst same
      simp [AbstractRegistry.register, noPair stream]
    · rw [if_neg same]
      exact represents.streamsOf_iff tested stream
  · intro stream
    rw [sameSubscribers]
    exact represents.subscribers_nodup stream
  · intro tested
    rw [newStreams]
    split
    · exact List.nodup_nil
    · exact represents.streamsOf_nodup tested
  · change (registry.connections.insert conn entry).keys = _
    rw [Table.keys_insert, represents.connections_keys]
    rfl
  · change (registry.connStreams.insert conn []).keys = _
    rw [Table.keys_insert, represents.connStreams_keys]
    rfl
  · change registry.active + 1 = _
    rw [represents.active_eq, AbstractRegistry.register,
      Finset.card_insert_of_notMem fresh]
    push_cast
    rfl

/-! ## Subscription -/

private theorem subscribe_of_missing
    {registry : Registry} {conn : ConnId}
    (missing : registry.connStreams.lookup conn = none)
    (stream : String) :
    registry.subscribe conn stream = registry := by
  simp [Registry.subscribe, missing]

private theorem subscribe_of_held
    {registry : Registry} {conn : ConnId} {held : List String}
    (present : registry.connStreams.lookup conn = some held)
    {stream : String} (already : stream ∈ held) :
    registry.subscribe conn stream = registry := by
  simp [Registry.subscribe, present, already]

private theorem subscribe_of_new
    {registry : Registry} {conn : ConnId} {held : List String}
    (present : registry.connStreams.lookup conn = some held)
    {stream : String} (new : stream ∉ held) :
    registry.subscribe conn stream =
      (registry.pushSubscriber stream conn).pushConnStream conn stream := by
  simp [Registry.subscribe, present, new]

private theorem Represents.subscribe_new
    {registry : Registry} {abstract : AbstractRegistry}
    (represents : Represents registry abstract)
    {conn : ConnId} {held : List String}
    (present : registry.connStreams.lookup conn = some held)
    {stream : String} (new : stream ∉ held) :
    Represents
      ((registry.pushSubscriber stream conn).pushConnStream conn stream)
      { abstract with pairs := insert (conn, stream) abstract.pairs } := by
  have heldEq : registry.streamsOf conn = held := by
    simp [Registry.streamsOf, present]
  have noPair : (conn, stream) ∉ abstract.pairs := by
    rw [← represents.streamsOf_iff, heldEq]
    exact new
  have subscribersEq :
      ∀ tested,
        ((registry.pushSubscriber stream conn).pushConnStream
            conn stream).subscribers tested =
          if tested = stream then registry.subscribers stream ++ [conn]
          else registry.subscribers tested := by
    intro tested
    rw [← Registry.subscribers_pushSubscriber]
    exact Registry.subscribers_congr rfl tested
  have streamsEq :
      ∀ tested,
        ((registry.pushSubscriber stream conn).pushConnStream
            conn stream).streamsOf tested =
          if tested = conn then held ++ [stream]
          else registry.streamsOf tested :=
    fun tested =>
      @Registry.streamsOf_pushConnStream
        (registry.pushSubscriber stream conn) conn held present
        tested stream
  refine
    { subscribers_iff := ?_, streamsOf_iff := ?_,
      subscribers_nodup := ?_, streamsOf_nodup := ?_,
      no_empty_entry := ?_,
      connections_keys := represents.connections_keys,
      connStreams_keys := ?_, active_eq := represents.active_eq }
  · intro testedConn tested
    rw [subscribersEq, Finset.mem_insert, ← represents.subscribers_iff]
    by_cases same : tested = stream
    · subst same
      rw [if_pos rfl, List.mem_append, List.mem_singleton, or_comm]
      simp
    · simp [same]
  · intro testedConn tested
    rw [streamsEq, Finset.mem_insert, ← represents.streamsOf_iff]
    by_cases same : testedConn = conn
    · subst same
      rw [if_pos rfl, List.mem_append, List.mem_singleton, or_comm, heldEq]
      simp
    · simp [same]
  · intro tested
    rw [subscribersEq]
    split
    · refine (represents.subscribers_nodup stream).append
        (List.nodup_singleton conn) ?_
      rw [List.disjoint_singleton, represents.subscribers_iff]
      exact noPair
    · exact represents.subscribers_nodup tested
  · intro tested
    rw [streamsEq]
    split
    · refine (heldEq ▸ represents.streamsOf_nodup conn).append
        (List.nodup_singleton stream) ?_
      rw [List.disjoint_singleton]
      exact new
    · exact represents.streamsOf_nodup tested
  · intro tested
    simp only [Registry.pushConnStream_streams,
      Registry.pushSubscriber_streams, Table.lookup_upsert]
    split
    · simp
    · exact represents.no_empty_entry tested
  · simp only [Registry.pushConnStream_connStreams, Table.keys_modify]
    exact represents.connStreams_keys

theorem Represents.subscribe
    {registry : Registry} {abstract : AbstractRegistry}
    (represents : Represents registry abstract)
    (conn : ConnId) (stream : String) :
    Represents (registry.subscribe conn stream)
      (abstract.subscribe conn stream) := by
  have liveIff := represents.connStreams_isSome conn
  cases present : registry.connStreams.lookup conn with
  | none =>
      have dead : conn ∉ abstract.live := by
        rw [← liveIff, present]
        simp
      rw [subscribe_of_missing present, AbstractRegistry.subscribe,
        if_neg dead]
      exact represents
  | some held =>
      have alive : conn ∈ abstract.live := by
        rw [← liveIff, present]
        rfl
      rw [AbstractRegistry.subscribe, if_pos alive]
      by_cases already : stream ∈ held
      · have pair : (conn, stream) ∈ abstract.pairs := by
          rw [← represents.streamsOf_iff, Registry.streamsOf, present]
          exact already
        rw [subscribe_of_held present already,
          Finset.insert_eq_of_mem pair]
        exact represents
      · rw [subscribe_of_new present already]
        exact represents.subscribe_new present already

/-! ## Removal from one stream -/

/-- The entry left behind by `remove_subscriber_from_stream`: an emptied list
is removed with its key. -/
theorem streams_lookup_removeSubscriberFromStream
    (registry : Registry) (stream tested : String) (conn : ConnId) :
    (registry.removeSubscriberFromStream stream conn).streams.lookup
        tested =
      if tested = stream then
        if registry.shouldRemove stream conn then none
        else
          (registry.streams.lookup stream).map
            (fun subscribers => subscribers.filter (· ≠ conn))
      else registry.streams.lookup tested := by
  have retained :
      ∀ other,
        (registry.retainSubscribers stream conn).streams.lookup other =
          if other = stream then
            (registry.streams.lookup stream).map
              (fun subscribers => subscribers.filter (· ≠ conn))
          else registry.streams.lookup other :=
    fun other => Table.lookup_modify _ _ _ _
  unfold Registry.removeSubscriberFromStream
  by_cases emptied : registry.shouldRemove stream conn
  · have emptyEntry :
        (registry.retainSubscribers stream conn).streams.lookup stream =
          some [] := by
      rw [retained, if_pos rfl]
      unfold Registry.shouldRemove at emptied
      cases present : registry.streams.lookup stream with
      | none =>
          simp [present] at emptied
      | some subscribers =>
          rw [present] at emptied
          simpa using emptied
    rw [if_pos emptied, Registry.streams_lookup_removeIfEmpty,
      emptyEntry, retained]
    by_cases same : tested = stream
    · simp [same, emptied]
    · simp [same]
  · rw [if_neg emptied, retained, if_neg emptied]

theorem subscribers_removeSubscriberFromStream
    (registry : Registry) (stream tested : String) (conn : ConnId) :
    (registry.removeSubscriberFromStream stream conn).subscribers tested =
      if tested = stream then
        (registry.subscribers stream).filter (· ≠ conn)
      else registry.subscribers tested := by
  unfold Registry.removeSubscriberFromStream
  split
  · rw [Registry.subscribers_removeIfEmpty,
      Registry.subscribers_retainSubscribers]
  · exact Registry.subscribers_retainSubscribers registry stream tested conn

/-- Removing a subscriber leaves no empty entry where there was none. -/
theorem no_empty_removeSubscriberFromStream
    {registry : Registry}
    (noEmpty : ∀ stream, registry.streams.lookup stream ≠ some [])
    (stream : String) (conn : ConnId) (tested : String) :
    (registry.removeSubscriberFromStream stream conn).streams.lookup
      tested ≠ some [] := by
  rw [streams_lookup_removeSubscriberFromStream]
  split
  · split
    · simp
    · rename_i kept
      intro empty
      apply kept
      unfold Registry.shouldRemove
      cases present : registry.streams.lookup stream with
      | none =>
          simp [present] at empty
      | some subscribers =>
          rw [present] at empty
          simpa using empty
  · exact noEmpty tested

@[simp]
theorem removeSubscriberFromStream_connections
    (registry : Registry) (stream : String) (conn : ConnId) :
    (registry.removeSubscriberFromStream stream conn).connections =
      registry.connections := by
  unfold Registry.removeSubscriberFromStream
  split <;> simp

@[simp]
theorem removeSubscriberFromStream_connStreams
    (registry : Registry) (stream : String) (conn : ConnId) :
    (registry.removeSubscriberFromStream stream conn).connStreams =
      registry.connStreams := by
  unfold Registry.removeSubscriberFromStream
  split <;> simp

@[simp]
theorem removeSubscriberFromStream_nextId
    (registry : Registry) (stream : String) (conn : ConnId) :
    (registry.removeSubscriberFromStream stream conn).nextId =
      registry.nextId := by
  unfold Registry.removeSubscriberFromStream
  split <;> simp

@[simp]
theorem removeSubscriberFromStream_active
    (registry : Registry) (stream : String) (conn : ConnId) :
    (registry.removeSubscriberFromStream stream conn).active =
      registry.active := by
  unfold Registry.removeSubscriberFromStream
  split <;> simp

theorem Represents.unsubscribe
    {registry : Registry} {abstract : AbstractRegistry}
    (represents : Represents registry abstract)
    (conn : ConnId) (stream : String) :
    Represents (registry.unsubscribe conn stream)
      (abstract.unsubscribe conn stream) := by
  have subscribersEq :
      ∀ tested,
        (registry.unsubscribe conn stream).subscribers tested =
          if tested = stream then
            (registry.subscribers stream).filter (· ≠ conn)
          else registry.subscribers tested := by
    intro tested
    rw [← subscribers_removeSubscriberFromStream]
    exact Registry.subscribers_congr rfl tested
  have streamsEq :
      ∀ tested,
        (registry.unsubscribe conn stream).streamsOf tested =
          if tested = conn then
            (registry.streamsOf conn).filter (· ≠ stream)
          else registry.streamsOf tested := by
    intro tested
    rw [Registry.unsubscribe, Registry.streamsOf_forgetConnStream]
    simp only [Registry.streamsOf, removeSubscriberFromStream_connStreams]
  refine
    { subscribers_iff := ?_, streamsOf_iff := ?_,
      subscribers_nodup := ?_, streamsOf_nodup := ?_,
      no_empty_entry :=
        no_empty_removeSubscriberFromStream represents.no_empty_entry
          stream conn,
      connections_keys := ?_, connStreams_keys := ?_, active_eq := ?_ }
  · intro testedConn tested
    rw [subscribersEq]
    simp only [AbstractRegistry.unsubscribe, Finset.mem_erase,
      ← represents.subscribers_iff, ne_eq, Prod.mk.injEq, not_and]
    by_cases same : tested = stream
    · subst same
      simp [and_comm]
    · simp [same]
  · intro testedConn tested
    rw [streamsEq]
    simp only [AbstractRegistry.unsubscribe, Finset.mem_erase,
      ← represents.streamsOf_iff, ne_eq, Prod.mk.injEq, not_and]
    by_cases same : testedConn = conn
    · subst same
      simp [and_comm]
    · simp [same]
  · intro tested
    rw [subscribersEq]
    split
    · exact (represents.subscribers_nodup stream).filter _
    · exact represents.subscribers_nodup tested
  · intro tested
    rw [streamsEq]
    split
    · exact (represents.streamsOf_nodup conn).filter _
    · exact represents.streamsOf_nodup tested
  · simp only [Registry.unsubscribe, Registry.forgetConnStream_connections,
      removeSubscriberFromStream_connections]
    exact represents.connections_keys
  · simp only [Registry.unsubscribe, Registry.forgetConnStream_connStreams,
      Table.keys_modify, removeSubscriberFromStream_connStreams]
    exact represents.connStreams_keys
  · simp only [Registry.unsubscribe, Registry.forgetConnStream_active,
      removeSubscriberFromStream_active]
    exact represents.active_eq

/-! ## Deregistration -/

/-- The frame of the detaching loop: it only touches `streams`. -/
theorem detachAll_frame (conn : ConnId) :
    ∀ (streams : List String) (registry : Registry),
      (Registry.detachAll conn streams registry).connections =
          registry.connections ∧
        (Registry.detachAll conn streams registry).connStreams =
          registry.connStreams ∧
        (Registry.detachAll conn streams registry).active =
          registry.active ∧
        (Registry.detachAll conn streams registry).nextId =
          registry.nextId
  | [], registry => ⟨rfl, rfl, rfl, rfl⟩
  | stream :: rest, registry => by
      have inner :=
        detachAll_frame conn rest
          (registry.removeSubscriberFromStream stream conn)
      simpa only [Registry.detachAll,
        removeSubscriberFromStream_connections,
        removeSubscriberFromStream_connStreams,
        removeSubscriberFromStream_active,
        removeSubscriberFromStream_nextId] using inner

/-- The detaching loop filters the connection out of the listed streams. -/
theorem subscribers_detachAll (conn : ConnId) :
    ∀ (streams : List String) (registry : Registry) (tested : String),
      (Registry.detachAll conn streams registry).subscribers tested =
        if tested ∈ streams then
          (registry.subscribers tested).filter (· ≠ conn)
        else registry.subscribers tested
  | [], registry, tested => by
      simp [Registry.detachAll]
  | stream :: rest, registry, tested => by
      rw [Registry.detachAll, subscribers_detachAll conn rest,
        subscribers_removeSubscriberFromStream]
      by_cases same : tested = stream
      · subst same
        simp [List.filter_filter]
      · simp [same]

theorem no_empty_detachAll (conn : ConnId) :
    ∀ (streams : List String) {registry : Registry},
      (∀ stream, registry.streams.lookup stream ≠ some []) →
        ∀ tested,
          (Registry.detachAll conn streams registry).streams.lookup
            tested ≠ some []
  | [], _, noEmpty => noEmpty
  | stream :: rest, _, noEmpty =>
      no_empty_detachAll conn rest
        (no_empty_removeSubscriberFromStream noEmpty stream conn)

private theorem dropConnection_streams
    (registry : Registry) (conn : ConnId) :
    (registry.dropConnection conn).streams = registry.streams ∧
      (registry.dropConnection conn).connStreams =
        registry.connStreams ∧
      (registry.dropConnection conn).connections =
        registry.connections.erase conn ∧
      (registry.dropConnection conn).nextId = registry.nextId ∧
      (registry.dropConnection conn).active =
        if conn ∈ registry.connections then registry.active - 1
        else registry.active := by
  unfold Registry.dropConnection
  split <;> exact ⟨rfl, rfl, rfl, rfl, rfl⟩

/-- What `deregister` leaves behind, map by map. -/
theorem deregister_frame (registry : Registry) (conn : ConnId) :
    (registry.deregister conn).streams =
        (Registry.detachAll conn (registry.streamsOf conn)
          (registry.removeConnStreams conn)).streams ∧
      (registry.deregister conn).connStreams =
        registry.connStreams.erase conn ∧
      (registry.deregister conn).connections =
        registry.connections.erase conn ∧
      (registry.deregister conn).active =
        if conn ∈ registry.connections then registry.active - 1
        else registry.active := by
  obtain ⟨sameConnections, sameConnStreams, sameActive, -⟩ :=
    detachAll_frame conn (registry.streamsOf conn)
      (registry.removeConnStreams conn)
  obtain ⟨streams, connStreams, connections, -, active⟩ :=
    dropConnection_streams
      (Registry.detachAll conn (registry.streamsOf conn)
        (registry.removeConnStreams conn)) conn
  refine ⟨streams, ?_, ?_, ?_⟩
  · rw [Registry.deregister, connStreams, sameConnStreams,
      Registry.removeConnStreams_connStreams]
  · rw [Registry.deregister, connections, sameConnections,
      Registry.removeConnStreams_connections]
  · rw [Registry.deregister, active, sameConnections, sameActive,
      Registry.removeConnStreams_connections,
      Registry.removeConnStreams_active]

/-- A stream that is not on the connection's list does not list it either, so
the loop of `deregister` amounts to filtering every stream. -/
theorem Represents.subscribers_deregister
    {registry : Registry} {abstract : AbstractRegistry}
    (represents : Represents registry abstract)
    (conn : ConnId) (tested : String) :
    (registry.deregister conn).subscribers tested =
      (registry.subscribers tested).filter (· ≠ conn) := by
  obtain ⟨sameStreams, -, -, -⟩ := deregister_frame registry conn
  have sameBefore :
      (registry.removeConnStreams conn).subscribers tested =
        registry.subscribers tested :=
    Registry.subscribers_congr rfl tested
  rw [Registry.subscribers_congr sameStreams tested, subscribers_detachAll,
    sameBefore]
  split
  · rfl
  · rename_i unlisted
    symm
    rw [List.filter_eq_self]
    intro other member
    have different : other ≠ conn := by
      intro same
      subst same
      apply unlisted
      rw [represents.streamsOf_iff, ← represents.subscribers_iff]
      exact member
    simpa using different

private theorem streamsOf_deregister
    (registry : Registry) (conn tested : ConnId) :
    (registry.deregister conn).streamsOf tested =
      if tested = conn then [] else registry.streamsOf tested := by
  obtain ⟨-, sameConnStreams, -, -⟩ := deregister_frame registry conn
  rw [← Registry.streamsOf_removeConnStreams]
  exact Registry.streamsOf_congr sameConnStreams tested

/-- The counter goes down exactly when the connection was live. -/
private theorem Represents.active_deregister
    {registry : Registry} {abstract : AbstractRegistry}
    (represents : Represents registry abstract) (conn : ConnId) :
    (registry.deregister conn).active =
      ((abstract.live.erase conn).card : Int) := by
  obtain ⟨-, -, -, counted⟩ := deregister_frame registry conn
  have registered_iff :
      conn ∈ registry.connections ↔ conn ∈ abstract.live := by
    rw [← represents.connections_keys, Finmap.mem_keys]
  rw [counted, represents.active_eq]
  split
  · rename_i registered
    have alive := registered_iff.mp registered
    have positive := Finset.card_pos.mpr ⟨conn, alive⟩
    rw [Finset.card_erase_of_mem alive]
    omega
  · rename_i unregistered
    have dead := fun alive => unregistered (registered_iff.mpr alive)
    rw [Finset.erase_eq_of_notMem dead]

theorem Represents.deregister
    {registry : Registry} {abstract : AbstractRegistry}
    (represents : Represents registry abstract) (conn : ConnId) :
    Represents (registry.deregister conn)
      (abstract.deregisterAll [conn]) := by
  obtain ⟨sameStreams, sameConnStreams, sameConnections, -⟩ :=
    deregister_frame registry conn
  have liveErase :
      (abstract.deregisterAll [conn]).live = abstract.live.erase conn := by
    ext other
    simp [AbstractRegistry.deregisterAll, and_comm]
  refine
    { subscribers_iff := ?_, streamsOf_iff := ?_,
      subscribers_nodup := ?_, streamsOf_nodup := ?_,
      no_empty_entry := ?_,
      connections_keys := ?_, connStreams_keys := ?_, active_eq := ?_ }
  · intro testedConn tested
    rw [represents.subscribers_deregister]
    simp [AbstractRegistry.deregisterAll, ← represents.subscribers_iff]
  · intro testedConn tested
    rw [streamsOf_deregister]
    by_cases same : testedConn = conn
    · simp [same, AbstractRegistry.deregisterAll]
    · simp [same, AbstractRegistry.deregisterAll,
        ← represents.streamsOf_iff]
  · intro tested
    rw [represents.subscribers_deregister]
    exact (represents.subscribers_nodup tested).filter _
  · intro tested
    rw [streamsOf_deregister]
    split
    · exact List.nodup_nil
    · exact represents.streamsOf_nodup tested
  · intro tested
    rw [sameStreams]
    have noEmpty :
        ∀ other,
          (registry.removeConnStreams conn).streams.lookup other ≠ some [] :=
      represents.no_empty_entry
    exact
      no_empty_detachAll conn (registry.streamsOf conn) noEmpty tested
  · rw [sameConnections, Finmap.keys_erase, represents.connections_keys]
    exact liveErase.symm
  · rw [sameConnStreams, Finmap.keys_erase, represents.connStreams_keys]
    exact liveErase.symm
  · rw [liveErase]
    exact represents.active_deregister conn

/-- Deregistering a list of connections one after the other. -/
theorem Represents.deregisterAll
    {registry : Registry} {abstract : AbstractRegistry}
    (represents : Represents registry abstract) (conns : List ConnId) :
    Represents (conns.foldl Registry.deregister registry)
      (abstract.deregisterAll conns) := by
  induction conns generalizing registry abstract with
  | nil =>
      have unchanged : abstract.deregisterAll [] = abstract := by
        cases abstract
        simp [AbstractRegistry.deregisterAll]
      rw [unchanged]
      exact represents
  | cons conn rest ih =>
      have combined :
          abstract.deregisterAll (conn :: rest) =
            (abstract.deregisterAll [conn]).deregisterAll rest := by
        simp only [AbstractRegistry.deregisterAll, Finset.filter_filter]
        congr 1
        · ext other
          simp
        · ext pair
          simp
      rw [combined]
      exact ih (represents.deregister conn)

/-! ## Fan-out -/

section Fanout

variable {β : Type}

/-- Those of the connections whose queue refuses the payload when it is their
turn: it is closed, or full with what it has taken by then. -/
def refusing (entryOf : ConnId → Option ConnectionEntry)
    (jsonPayload binaryPayload : β) :
    (ChanId → Channel β) → List ConnId → List ConnId
  | _, [] => []
  | queues, conn :: rest =>
      match entryOf conn with
      | none => refusing entryOf jsonPayload binaryPayload queues rest
      | some entry =>
          let queue := queues entry.sender
          let payload := if entry.isBinary then binaryPayload else jsonPayload
          if queue.accepts then
            refusing entryOf jsonPayload binaryPayload
              (Function.update queues entry.sender (queue.push payload)) rest
          else
            conn :: refusing entryOf jsonPayload binaryPayload queues rest

theorem refusing_sublist (entryOf : ConnId → Option ConnectionEntry)
    (jsonPayload binaryPayload : β) (queues : ChanId → Channel β)
    (conns : List ConnId) :
    (refusing entryOf jsonPayload binaryPayload queues conns).Sublist
      conns := by
  induction conns generalizing queues with
  | nil =>
      exact List.Sublist.refl []
  | cons conn rest ih =>
      unfold refusing
      split
      · exact (ih queues).cons conn
      · dsimp only
        split
        · exact (ih _).cons conn
        · exact (ih queues).cons_cons conn

/-- The loop over the subscribers evicts those that refuse. -/
theorem foldl_deliverTo_evicted (registry : Registry)
    (jsonPayload binaryPayload : β) (conns : List ConnId)
    (scan : FanoutScan β) :
    (conns.foldl (deliverTo registry jsonPayload binaryPayload) scan).evicted =
      scan.evicted ++
        refusing registry.connections.lookup jsonPayload binaryPayload
          scan.channels.live conns := by
  induction conns generalizing scan with
  | nil =>
      exact (List.append_nil _).symm
  | cons conn rest ih =>
      rw [List.foldl_cons, ih, refusing, deliverTo]
      cases registry.connections.lookup conn with
      | none => rfl
      | some entry =>
          dsimp only
          cases room : (scan.channels.live entry.sender).accepts with
          | true =>
              rw [Channel.trySend_of_accepts room]
              rfl
          | false =>
              rw [Channel.trySend_of_refuses room]
              simp [Channels.live_signalEviction]

theorem Represents.fanoutEncoded
    {registry : Registry} {abstract : AbstractRegistry}
    (represents : Represents registry abstract)
    (channels : Channels β) (stream : String)
    (jsonPayload binaryPayload : β) :
    Represents
      (registry.fanoutEncoded channels stream
        jsonPayload binaryPayload).1
      (abstract.fanout stream
        (refusing registry.connections.lookup jsonPayload binaryPayload
          channels.live (registry.subscribers stream))) := by
  have allSubscribed :
      (refusing registry.connections.lookup jsonPayload binaryPayload
          channels.live (registry.subscribers stream)).filter
          (fun conn => (conn, stream) ∈ abstract.pairs) =
        refusing registry.connections.lookup jsonPayload binaryPayload
          channels.live (registry.subscribers stream) := by
    rw [List.filter_eq_self]
    intro conn member
    rw [decide_eq_true_iff, ← represents.subscribers_iff]
    exact (refusing_sublist _ _ _ _ _).subset member
  have isEvicted :
      (scanSubscribers registry channels stream
          jsonPayload binaryPayload).evicted =
        refusing registry.connections.lookup jsonPayload binaryPayload
          channels.live (registry.subscribers stream) :=
    foldl_deliverTo_evicted registry jsonPayload binaryPayload
      (registry.subscribers stream) _
  rw [AbstractRegistry.fanout, allSubscribed, Registry.fanoutEncoded,
    isEvicted]
  exact represents.deregisterAll _

end Fanout

/-! ## Sequences of calls -/

/-- The callers' side of the registry: the registry itself, the ids handed out
by `allocate_id` and not yet registered, and the abstract state. -/
structure CallState where
  registry : Registry
  handedOut : List ConnId
  abstract : AbstractRegistry

/-- One call, with arbitrary arguments.  Only an id that was handed out and is
still unused can be registered; a fan-out meets its channels in an arbitrary
state. -/
inductive Call (β : Type) where
  | allocateId
  | register (conn : ConnId) (entry : ConnectionEntry)
  | subscribe (conn : ConnId) (stream : String)
  | unsubscribe (conn : ConnId) (stream : String)
  | deregister (conn : ConnId)
  | fanoutEncoded (channels : Channels β) (stream : String)
      (jsonPayload binaryPayload : β)

namespace CallState

variable {β : Type}

def initial : CallState where
  registry := Registry.new
  handedOut := []
  abstract := AbstractRegistry.empty

/-- Make one call on the registry and on the relation.  Which subscribers a
fan-out takes out of the relation is up to their queues. -/
def call (state : CallState) : Call β → CallState
  | .allocateId =>
      { state with
        registry := state.registry.allocateId.2
        handedOut := state.handedOut ++ [state.registry.allocateId.1] }
  | .register conn entry =>
      if conn ∈ state.handedOut then
        { registry := state.registry.register conn entry
          handedOut := state.handedOut.erase conn
          abstract := state.abstract.register conn }
      else
        state
  | .subscribe conn stream =>
      { state with
        registry := state.registry.subscribe conn stream
        abstract := state.abstract.subscribe conn stream }
  | .unsubscribe conn stream =>
      { state with
        registry := state.registry.unsubscribe conn stream
        abstract := state.abstract.unsubscribe conn stream }
  | .deregister conn =>
      { state with
        registry := state.registry.deregister conn
        abstract := state.abstract.deregisterAll [conn] }
  | .fanoutEncoded channels stream jsonPayload binaryPayload =>
      { state with
        registry :=
          (state.registry.fanoutEncoded channels stream
            jsonPayload binaryPayload).1
        abstract :=
          state.abstract.fanout stream
            (refusing state.registry.connections.lookup
              jsonPayload binaryPayload channels.live
              (state.registry.subscribers stream)) }

def run (calls : List (Call β)) : CallState :=
  calls.foldl call initial

/-- What every sequence of calls keeps: the representation, and the freshness
of the ids handed out. -/
structure Sound (state : CallState) : Prop where
  represents : Represents state.registry state.abstract
  handedOut_nodup : state.handedOut.Nodup
  handedOut_fresh : ∀ conn ∈ state.handedOut, conn ∉ state.abstract.live
  handedOut_below :
    ∀ conn ∈ state.handedOut, conn < state.registry.nextId
  live_below :
    ∀ conn ∈ state.abstract.live, conn < state.registry.nextId

private theorem subscribe_nextId
    (registry : Registry) (conn : ConnId) (stream : String) :
    (registry.subscribe conn stream).nextId = registry.nextId := by
  unfold Registry.subscribe
  split
  · rfl
  · split <;> rfl

private theorem deregister_nextId
    (registry : Registry) (conn : ConnId) :
    (registry.deregister conn).nextId = registry.nextId := by
  rw [Registry.deregister, (dropConnection_streams _ conn).2.2.2.1,
    (detachAll_frame conn _ _).2.2.2]
  rfl

private theorem foldl_deregister_nextId (conns : List ConnId) :
    ∀ registry : Registry,
      (conns.foldl Registry.deregister registry).nextId =
        registry.nextId := by
  induction conns with
  | nil =>
      intro registry
      rfl
  | cons conn rest ih =>
      intro registry
      rw [List.foldl_cons, ih, deregister_nextId]

/-- A call that neither allocates nor registers, and whose abstract effect
keeps the live set within bounds. -/
private theorem Sound.of_shrinking
    {state : CallState} (sound : Sound state)
    {registry : Registry} {abstract : AbstractRegistry}
    (represents : Represents registry abstract)
    (sameNext : registry.nextId = state.registry.nextId)
    (shrinks : abstract.live ⊆ state.abstract.live) :
    Sound { state with registry := registry, abstract := abstract } where
  represents := represents
  handedOut_nodup := sound.handedOut_nodup
  handedOut_fresh := by
    intro conn member alive
    exact sound.handedOut_fresh conn member (shrinks alive)
  handedOut_below := by
    intro conn member
    change conn < registry.nextId
    rw [sameNext]
    exact sound.handedOut_below conn member
  live_below := by
    intro conn alive
    change conn < registry.nextId
    rw [sameNext]
    exact sound.live_below conn (shrinks alive)

private theorem deregisterAll_live_subset
    (abstract : AbstractRegistry) (conns : List ConnId) :
    (abstract.deregisterAll conns).live ⊆ abstract.live :=
  Finset.filter_subset _ _

private theorem Sound.allocateId
    {state : CallState} (sound : Sound state) :
    Sound (state.call (.allocateId : Call β)) where
  represents :=
    { sound.represents with
      no_empty_entry := sound.represents.no_empty_entry }
  handedOut_nodup := by
    refine sound.handedOut_nodup.append (List.nodup_singleton _) ?_
    rw [List.disjoint_singleton]
    intro member
    exact Nat.lt_irrefl _ (sound.handedOut_below _ member)
  handedOut_fresh := by
    intro conn member alive
    rcases List.mem_append.mp member with earlier | new
    · exact sound.handedOut_fresh conn earlier alive
    · rw [List.mem_singleton.mp new] at alive
      exact Nat.lt_irrefl _ (sound.live_below _ alive)
  handedOut_below := by
    intro conn member
    rcases List.mem_append.mp member with earlier | new
    · exact Nat.lt_succ_of_lt (sound.handedOut_below conn earlier)
    · rw [List.mem_singleton.mp new]
      exact Nat.lt_succ_self _
  live_below := by
    intro conn alive
    exact Nat.lt_succ_of_lt (sound.live_below conn alive)

private theorem Sound.register
    {state : CallState} (sound : Sound state)
    (conn : ConnId) (entry : ConnectionEntry) :
    Sound (state.call (.register conn entry : Call β)) := by
  rw [call]
  split
  · rename_i member
    have fresh := sound.handedOut_fresh conn member
    exact
      { represents := sound.represents.register fresh entry
        handedOut_nodup := sound.handedOut_nodup.erase conn
        handedOut_fresh := by
          intro other otherMember alive
          have remaining :=
            sound.handedOut_nodup.mem_erase_iff.mp otherMember
          rcases Finset.mem_insert.mp alive with same | earlier
          · exact remaining.1 same
          · exact sound.handedOut_fresh other remaining.2 earlier
        handedOut_below := by
          intro other otherMember
          exact
            sound.handedOut_below other (List.mem_of_mem_erase otherMember)
        live_below := by
          intro other alive
          rcases Finset.mem_insert.mp alive with same | earlier
          · subst same
            exact sound.handedOut_below other member
          · exact sound.live_below other earlier }
  · exact sound

theorem Sound.call
    {state : CallState} (sound : Sound state) (next : Call β) :
    Sound (state.call next) := by
  cases next with
  | allocateId =>
      exact sound.allocateId
  | register conn entry =>
      exact sound.register conn entry
  | subscribe conn stream =>
      refine sound.of_shrinking
        (sound.represents.subscribe conn stream)
        (subscribe_nextId _ conn stream) ?_
      unfold AbstractRegistry.subscribe
      split
      · exact Finset.Subset.refl _
      · exact Finset.Subset.refl _
  | unsubscribe conn stream =>
      refine sound.of_shrinking
        (sound.represents.unsubscribe conn stream) ?_
        (Finset.Subset.refl _)
      simp [Registry.unsubscribe]
  | deregister conn =>
      exact sound.of_shrinking (sound.represents.deregister conn)
        (deregister_nextId _ conn) (deregisterAll_live_subset _ _)
  | fanoutEncoded channels stream jsonPayload binaryPayload =>
      exact sound.of_shrinking
        (sound.represents.fanoutEncoded channels stream
          jsonPayload binaryPayload)
        (foldl_deregister_nextId _ _) (deregisterAll_live_subset _ _)

theorem sound_initial : Sound initial where
  represents := new_represents_empty
  handedOut_nodup := List.nodup_nil
  handedOut_fresh := by simp [initial]
  handedOut_below := by simp [initial]
  live_below := by simp [initial, AbstractRegistry.empty]

theorem sound_run (calls : List (Call β)) : Sound (run calls) := by
  have throughout :
      ∀ (remaining : List (Call β)) (state : CallState),
        Sound state → Sound (remaining.foldl CallState.call state) := by
    intro remaining
    induction remaining with
    | nil =>
        intro state sound
        exact sound
    | cons next rest ih =>
        intro state sound
        exact ih (state.call next) (sound.call next)
  exact throughout calls initial sound_initial

/-- Every sequence of calls leaves the registry a representation of the
relation. -/
theorem registry_represents_relation (calls : List (Call β)) :
    Represents (run calls).registry (run calls).abstract :=
  (sound_run calls).represents

end CallState

end TurbocableServer.Connection
