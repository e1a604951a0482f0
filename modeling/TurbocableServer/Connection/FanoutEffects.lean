import TurbocableServer.Connection.RegistryOwnership

/-!
# What one fan-out does

The whole effect of `fanout_encoded` on the queues, the eviction channels and the
maps, from any state the registry can be in between calls.  The connections have
channels of their own, so the loop over the subscribers can be read off one
subscriber at a time.
-/

namespace TurbocableServer.Connection

open Foundations

variable {β : Type}

/-- The payload for the codec of the connection. -/
def ConnectionEntry.payload (entry : ConnectionEntry)
    (jsonPayload binaryPayload : β) : β :=
  if entry.isBinary then binaryPayload else jsonPayload

namespace Channels

/-- The connection's queue is open and has room. -/
def takes (channels : Channels β) (entry : ConnectionEntry) : Bool :=
  (channels.live entry.sender).accepts

/-- The channels with one more payload in a queue. -/
def enqueue (channels : Channels β) (target : ChanId) (payload : β) :
    Channels β :=
  { channels with
    live :=
      Function.update channels.live target
        ((channels.live target).push payload) }

/-! ## Eviction signals -/

/-- A signal that is pending stays pending, and the receiver is not touched. -/
theorem evict_signalEviction (channels : Channels β) (target tested : ChanId) :
    ((channels.signalEviction target).evict tested).receiverAlive =
        (channels.evict tested).receiverAlive ∧
      ((channels.signalEviction target).evict tested).capacity =
        (channels.evict tested).capacity ∧
      ((channels.evict tested).buf ≠ [] →
        ((channels.signalEviction target).evict tested).buf ≠ []) := by
  rw [signalEviction]
  split
  · rename_i signalled accepted
    have isPush := Channel.trySend_eq_some accepted
    by_cases same : tested = target
    · subst same
      simp [isPush, Channel.push]
    · simp [Function.update_of_ne same]
  · exact ⟨rfl, rfl, id⟩

/-- One signal is sufficient: it is in the channel afterwards whether it was
taken or found the channel full. -/
theorem pending_signalEviction {channels : Channels β} {target : ChanId}
    (alive : (channels.evict target).receiverAlive = true)
    (slots : 0 < (channels.evict target).capacity) :
    ((channels.signalEviction target).evict target).buf ≠ [] := by
  rw [signalEviction]
  cases room : (channels.evict target).accepts with
  | true =>
      simp [Channel.trySend_of_accepts room, Channel.push]
  | false =>
      rw [Channel.trySend_of_refuses room]
      intro empty
      simp [Channel.accepts, Channel.hasRoom, alive, empty] at room
      omega

end Channels

/-! ## One turn of the loop -/

section Turn

variable {registry : Registry} {jsonPayload binaryPayload : β}
variable {scan : FanoutScan β} {conn : ConnId} {entry : ConnectionEntry}

theorem deliverTo_of_takes
    (present : registry.connections.lookup conn = some entry)
    (takes : scan.channels.takes entry = true) :
    deliverTo registry jsonPayload binaryPayload scan conn =
      { scan with
        channels :=
          scan.channels.enqueue entry.sender
            (entry.payload jsonPayload binaryPayload)
        sent := scan.sent + 1 } := by
  simp only [deliverTo, present]
  rw [Channel.trySend_of_accepts takes]
  rfl

theorem deliverTo_of_refuses
    (present : registry.connections.lookup conn = some entry)
    (refuses : scan.channels.takes entry = false) :
    deliverTo registry jsonPayload binaryPayload scan conn =
      { scan with
        channels := scan.channels.signalEviction entry.evictTx
        evicted := scan.evicted ++ [conn] } := by
  simp only [deliverTo, present]
  rw [Channel.trySend_of_refuses refuses]

end Turn

/-! ## The loop -/

section Loop

variable (own : ConnId → ConnectionEntry) (jsonPayload binaryPayload : β)

/-- What serving the connections does, each with channels of its own. -/
structure Served (conns : List ConnId) (before after : FanoutScan β) :
    Prop where
  sent_eq :
    after.sent =
      before.sent +
        (conns.filter (fun conn => before.channels.takes (own conn))).length
  evicted_eq :
    after.evicted =
      before.evicted ++
        conns.filter (fun conn => !before.channels.takes (own conn))
  delivered :
    ∀ conn ∈ conns, before.channels.takes (own conn) = true →
      after.channels.live (own conn).sender =
        (before.channels.live (own conn).sender).push
          ((own conn).payload jsonPayload binaryPayload)
  kept :
    ∀ target,
      (∀ conn ∈ conns, before.channels.takes (own conn) = true →
        (own conn).sender ≠ target) →
      after.channels.live target = before.channels.live target
  receiver_kept :
    ∀ target,
      (after.channels.evict target).receiverAlive =
          (before.channels.evict target).receiverAlive ∧
        (after.channels.evict target).capacity =
          (before.channels.evict target).capacity
  stillPending :
    ∀ target, (before.channels.evict target).buf ≠ [] →
      (after.channels.evict target).buf ≠ []
  signalled :
    ∀ conn ∈ conns, before.channels.takes (own conn) = false →
      (before.channels.evict (own conn).evictTx).receiverAlive = true →
      0 < (before.channels.evict (own conn).evictTx).capacity →
      (after.channels.evict (own conn).evictTx).buf ≠ []

variable {own jsonPayload binaryPayload}

theorem served_nil (scan : FanoutScan β) :
    Served own jsonPayload binaryPayload [] scan scan where
  sent_eq := rfl
  evicted_eq := (List.append_nil _).symm
  delivered := by simp
  kept := fun _ _ => rfl
  receiver_kept := fun _ => ⟨rfl, rfl⟩
  stillPending := fun _ pending => pending
  signalled := by simp

/-- One turn serves one connection. -/
theorem served_deliverTo {registry : Registry} {conn : ConnId}
    (present : registry.connections.lookup conn = some (own conn))
    (scan : FanoutScan β) :
    Served own jsonPayload binaryPayload [conn] scan
      (deliverTo registry jsonPayload binaryPayload scan conn) := by
  cases room : scan.channels.takes (own conn) with
  | true =>
      rw [deliverTo_of_takes present room]
      refine
        { sent_eq := by simp [room], evicted_eq := by simp [room],
          delivered := ?_, kept := ?_, receiver_kept := fun _ => ⟨rfl, rfl⟩,
          stillPending := fun _ pending => pending,
          signalled := by simp [room] }
      · intro served member _
        rw [List.mem_singleton.mp member]
        exact Function.update_self ..
      · intro target different
        have apart := different conn (List.mem_singleton_self conn) room
        exact Function.update_of_ne apart.symm _ _
  | false =>
      rw [deliverTo_of_refuses present room]
      refine
        { sent_eq := by simp [room], evicted_eq := by simp [room],
          delivered := by simp [room], kept := ?_, receiver_kept := ?_,
          stillPending := ?_, signalled := ?_ }
      · intro target _
        exact congrFun (Channels.live_signalEviction _ _) target
      · intro target
        have same :=
          Channels.evict_signalEviction scan.channels (own conn).evictTx target
        exact ⟨same.1, same.2.1⟩
      · intro target
        exact (Channels.evict_signalEviction _ _ target).2.2
      · intro served member _ alive slots
        rw [List.mem_singleton.mp member] at alive slots ⊢
        exact Channels.pending_signalEviction alive slots

/-- Serving some connections and then others. -/
theorem Served.append {first second : List ConnId}
    {before middle after : FanoutScan β}
    (apart : Function.Injective (fun conn => (own conn).sender))
    (disjoint : first.Disjoint second)
    (served : Served own jsonPayload binaryPayload first before middle)
    (later : Served own jsonPayload binaryPayload second middle after) :
    Served own jsonPayload binaryPayload (first ++ second) before after := by
  -- the queues of the later connections have not been written to yet
  have queueKept : ∀ conn ∈ second,
      middle.channels.live (own conn).sender =
        before.channels.live (own conn).sender := by
    intro conn member
    apply served.kept
    intro other earlier _ same
    have isConn : other = conn := apart same
    exact disjoint earlier (isConn ▸ member)
  have takesKept : ∀ conn ∈ second,
      middle.channels.takes (own conn) = before.channels.takes (own conn) := by
    intro conn member
    rw [Channels.takes, queueKept conn member, Channels.takes]
  have takers :
      second.filter (fun conn => middle.channels.takes (own conn)) =
        second.filter (fun conn => before.channels.takes (own conn)) :=
    List.filter_congr takesKept
  have refusers :
      second.filter (fun conn => !middle.channels.takes (own conn)) =
        second.filter (fun conn => !before.channels.takes (own conn)) :=
    List.filter_congr (fun conn member => by rw [takesKept conn member])
  refine
    { sent_eq := ?_, evicted_eq := ?_, delivered := ?_, kept := ?_,
      receiver_kept := ?_, stillPending := ?_, signalled := ?_ }
  · rw [later.sent_eq, served.sent_eq, takers, List.filter_append,
      List.length_append, Nat.add_assoc]
  · rw [later.evicted_eq, served.evicted_eq, refusers, List.filter_append,
      List.append_assoc]
  · intro conn member takes
    rcases List.mem_append.mp member with early | late
    · rw [later.kept, served.delivered conn early takes]
      intro other otherLate _ same
      have isConn : other = conn := apart same
      exact disjoint early (isConn ▸ otherLate)
    · rw [later.delivered conn late ((takesKept conn late).trans takes),
        queueKept conn late]
  · intro target untouched
    have middleKept := served.kept target (fun conn member =>
      untouched conn (List.mem_append_left second member))
    rw [later.kept target, middleKept]
    intro conn member takes
    rw [takesKept conn member] at takes
    exact untouched conn (List.mem_append_right first member) takes
  · intro target
    have early := served.receiver_kept target
    have late := later.receiver_kept target
    exact ⟨late.1.trans early.1, late.2.trans early.2⟩
  · intro target pending
    exact later.stillPending target (served.stillPending target pending)
  · intro conn member refuses alive slots
    rcases List.mem_append.mp member with early | late
    · apply later.stillPending
      exact served.signalled conn early refuses alive slots
    · have same := served.receiver_kept (own conn).evictTx
      apply later.signalled conn late
      · rw [takesKept conn late, refuses]
      · rw [same.1, alive]
      · rw [same.2]
        exact slots

theorem served_foldl {registry : Registry}
    (apart : Function.Injective (fun conn => (own conn).sender)) :
    ∀ (conns : List ConnId) (scan : FanoutScan β),
      conns.Nodup →
      (∀ conn ∈ conns,
        registry.connections.lookup conn = some (own conn)) →
      Served own jsonPayload binaryPayload conns scan
        (conns.foldl (deliverTo registry jsonPayload binaryPayload) scan)
  | [], scan, _, _ => served_nil scan
  | conn :: rest, scan, nodup, present => by
      have turn : Served own jsonPayload binaryPayload [conn] scan
          (deliverTo registry jsonPayload binaryPayload scan conn) :=
        served_deliverTo (present conn List.mem_cons_self) scan
      have others := served_foldl apart rest
        (deliverTo registry jsonPayload binaryPayload scan conn)
        (List.nodup_cons.mp nodup).2
        (fun other member => present other (List.mem_cons_of_mem conn member))
      refine turn.append apart ?_ others
      rw [List.singleton_disjoint]
      exact (List.nodup_cons.mp nodup).1

/-- Every connection is counted once, as sent to or as evicted. -/
theorem Served.sent_add_evicted {conns : List ConnId}
    {before after : FanoutScan β}
    (served : Served own jsonPayload binaryPayload conns before after) :
    after.sent + after.evicted.length =
      before.sent + before.evicted.length + conns.length := by
  have split := List.length_eq_length_filter_add
    (l := conns) (fun conn => before.channels.takes (own conn))
  rw [served.sent_eq, served.evicted_eq, List.length_append]
  omega

end Loop

/-! ## The maps -/

section Maps

variable {registry : Registry} {abstract : AbstractRegistry}

theorem Represents.live_of_subscriber
    (represents : Represents registry abstract) {conn : ConnId}
    {stream : String} (member : conn ∈ registry.subscribers stream) :
    conn ∈ abstract.live :=
  represents.live_of_pair ((represents.subscribers_iff _ _).mp member)

/-- A subscriber is registered, with the channels it owns. -/
theorem ReachableRegistry.lookup_of_subscriber
    {own : ConnId → ConnectionEntry}
    (reachable : ReachableRegistry own registry) {conn : ConnId}
    {stream : String} (member : conn ∈ registry.subscribers stream) :
    registry.connections.lookup conn = some (own conn) := by
  obtain ⟨abstract, represents⟩ := reachable.exists_represents
  have registered : conn ∈ registry.connections := by
    rw [← Finmap.mem_keys, represents.connections_keys]
    exact represents.live_of_subscriber member
  rw [Table.mem_iff_isSome, Option.isSome_iff_exists] at registered
  obtain ⟨entry, isEntry⟩ := registered
  rw [isEntry, reachable.entriesOwn conn entry isEntry]

/-- A map from which `deregister` erases the connection has lost, after a run of
evictions, exactly the connections evicted. -/
theorem lookup_foldl_deregister {ν : Type} {view : Registry → Table ConnId ν}
    (erases : ∀ registry conn,
      view (registry.deregister conn) = (view registry).erase conn)
    (conns : List ConnId) (registry : Registry) (tested : ConnId) :
    (view (conns.foldl Registry.deregister registry)).lookup tested =
      if tested ∈ conns then none else (view registry).lookup tested := by
  induction conns generalizing registry with
  | nil => simp
  | cons conn rest ih =>
      rw [List.foldl_cons, ih, erases,
        Table.lookup_erase_eq_ite]
      by_cases same : tested = conn
      · simp [same]
      · simp [same]

theorem Represents.subscribers_foldl_deregister
    (represents : Represents registry abstract)
    (conns : List ConnId) (stream : String) :
    (conns.foldl Registry.deregister registry).subscribers stream =
      (registry.subscribers stream).filter (· ∉ conns) := by
  induction conns generalizing registry abstract with
  | nil => simp
  | cons conn rest ih =>
      rw [List.foldl_cons, ih (represents.deregister conn),
        represents.subscribers_deregister, List.filter_filter]
      apply List.filter_congr
      intro other _
      by_cases same : other = conn
      · simp [same]
      · simp [same]

/-- The counter goes down by one for each of different live connections. -/
theorem Represents.active_foldl_deregister
    (represents : Represents registry abstract)
    {conns : List ConnId} (nodup : conns.Nodup)
    (live : ∀ conn ∈ conns, conn ∈ abstract.live) :
    (conns.foldl Registry.deregister registry).active =
      registry.active - conns.length := by
  have remaining :
      (abstract.deregisterAll conns).live =
        abstract.live \ conns.toFinset := by
    ext conn
    simp [AbstractRegistry.deregisterAll]
  have subset : conns.toFinset ⊆ abstract.live := by
    intro conn member
    exact live conn (List.mem_toFinset.mp member)
  have counted := Finset.card_sdiff_add_card_eq_card subset
  rw [List.toFinset_card_of_nodup nodup] at counted
  rw [(represents.deregisterAll conns).active_eq, represents.active_eq,
    remaining]
  omega

end Maps

/-! ## The call -/

/-- What one `fanout_encoded` call does. -/
structure FanoutEffects (own : ConnId → ConnectionEntry)
    (registry : Registry) (channels : Channels β) (stream : String)
    (jsonPayload binaryPayload : β)
    (after : Registry × Channels β × FanoutResult) : Prop where
  /-- One payload, for the codec of the connection, is appended to the queue of
  each subscriber with room. -/
  delivered :
    ∀ conn ∈ registry.subscribers stream, channels.takes (own conn) = true →
      (after.2.1.live (own conn).sender).buf =
        (channels.live (own conn).sender).buf ++
          [(own conn).payload jsonPayload binaryPayload]
  /-- The queue of every other connection is unchanged. -/
  queues_kept :
    ∀ conn,
      ¬ (conn ∈ registry.subscribers stream ∧
        channels.takes (own conn) = true) →
      (after.2.1.live (own conn).sender).buf =
        (channels.live (own conn).sender).buf
  /-- A signal is pending for each subscriber whose send failed. -/
  signalled :
    ∀ conn ∈ registry.subscribers stream, channels.takes (own conn) = false →
      (channels.evict (own conn).evictTx).receiverAlive = true →
      (after.2.1.evict (own conn).evictTx).buf ≠ []
  evicted_iff :
    ∀ conn, conn ∈ after.2.2.evicted ↔
      conn ∈ registry.subscribers stream ∧ channels.takes (own conn) = false
  evicted_nodup : after.2.2.evicted.Nodup
  /-- Exactly the evicted connections leave the maps. -/
  connections_eq :
    ∀ conn, after.1.connections.lookup conn =
      if conn ∈ after.2.2.evicted then none
      else registry.connections.lookup conn
  connStreams_eq :
    ∀ conn, after.1.connStreams.lookup conn =
      if conn ∈ after.2.2.evicted then none
      else registry.connStreams.lookup conn
  subscribers_eq :
    ∀ tested, after.1.subscribers tested =
      (registry.subscribers tested).filter (· ∉ after.2.2.evicted)
  sent_add_dropped :
    after.2.2.sent + after.2.2.dropped =
      (registry.subscribers stream).length
  dropped_eq : after.2.2.dropped = after.2.2.evicted.length
  active_eq : after.1.active = registry.active - after.2.2.dropped

/-- The effect of a fan-out on any state between calls, when connections are
registered with channels of their own and eviction channels have a slot. -/
theorem fanout_encoded_effects
    (own : ConnId → ConnectionEntry)
    (apart : Function.Injective (fun conn => (own conn).sender))
    (registry : Registry) (reachable : ReachableRegistry own registry)
    (channels : Channels β)
    (slots : ∀ conn, 0 < (channels.evict (own conn).evictTx).capacity)
    (stream : String) (jsonPayload binaryPayload : β) :
    FanoutEffects own registry channels stream jsonPayload binaryPayload
      (registry.fanoutEncoded channels stream jsonPayload binaryPayload) := by
  obtain ⟨abstract, represents⟩ := reachable.exists_represents
  have nodup := represents.subscribers_nodup stream
  have served : Served own jsonPayload binaryPayload
      (registry.subscribers stream)
      { channels := channels, sent := 0, evicted := [] }
      (scanSubscribers registry channels stream jsonPayload binaryPayload) :=
    served_foldl apart _ _ nodup
      (fun conn member => reachable.lookup_of_subscriber member)
  have isEvicted := served.evicted_eq
  rw [List.nil_append] at isEvicted
  have evictedNodup :
      (scanSubscribers registry channels stream jsonPayload
        binaryPayload).evicted.Nodup := by
    rw [isEvicted]
    exact nodup.filter _
  have evicted_iff : ∀ conn,
      conn ∈ (scanSubscribers registry channels stream jsonPayload
          binaryPayload).evicted ↔
        conn ∈ registry.subscribers stream ∧
          channels.takes (own conn) = false := by
    intro conn
    rw [isEvicted, List.mem_filter, Bool.not_eq_true']
  have connectionsErased : ∀ (registry : Registry) (conn : ConnId),
      (registry.deregister conn).connections =
        registry.connections.erase conn :=
    fun registry conn => (deregister_frame registry conn).2.2.1
  have connStreamsErased : ∀ (registry : Registry) (conn : ConnId),
      (registry.deregister conn).connStreams =
        registry.connStreams.erase conn :=
    fun registry conn => (deregister_frame registry conn).2.1
  refine
    { delivered := ?_, queues_kept := ?_, signalled := ?_,
      evicted_iff := evicted_iff, evicted_nodup := evictedNodup,
      connections_eq := lookup_foldl_deregister connectionsErased _ registry,
      connStreams_eq := lookup_foldl_deregister connStreamsErased _ registry,
      subscribers_eq := represents.subscribers_foldl_deregister _,
      sent_add_dropped := ?_, dropped_eq := rfl, active_eq := ?_ }
  · intro conn member takes
    exact congrArg Channel.buf (served.delivered conn member takes)
  · intro conn spared
    apply congrArg Channel.buf
    apply served.kept
    intro other member takes same
    have isConn : other = conn := apart same
    subst isConn
    exact spared ⟨member, takes⟩
  · intro conn member refuses alive
    exact served.signalled conn member refuses alive (slots conn)
  · have counted := served.sent_add_evicted
    rw [List.length_nil, Nat.zero_add] at counted
    exact counted
  · apply represents.active_foldl_deregister evictedNodup
    intro conn member
    exact represents.live_of_subscriber ((evicted_iff conn).mp member).1

/-- Every connection has the channels of its number, and the second speaks the
binary codec. -/
def numberedEntry (conn : ConnId) : ConnectionEntry where
  sender := conn
  evictTx := conn
  isBinary := conn = 2

/-- Three connections are on `news`, and one of them on `mail` as well. -/
def newsCalls : List (Call String) :=
  [.allocateId, .allocateId, .allocateId,
    .register 1 (numberedEntry 1), .register 2 (numberedEntry 2),
    .register 3 (numberedEntry 3),
    .subscribe 1 "news", .subscribe 2 "news", .subscribe 3 "news",
    .subscribe 3 "mail"]

/-- Queues of one slot; the third is full, and its eviction already
signalled. -/
def newsChannels : Channels String where
  live := fun target =>
    if target = 3 then (Channel.new 1 1).push "old" else Channel.new 1 1
  evict := fun target =>
    if target = 3 then (Channel.new 1 1).push () else Channel.new 1 1

theorem newsCalls_own :
    ∀ conn entry, Call.register conn entry ∈ newsCalls →
      entry = numberedEntry conn := by
  intro conn entry member
  simp only [newsCalls, List.mem_cons, reduceCtorEq, Call.register.injEq,
    List.not_mem_nil, or_false, false_or] at member
  rcases member with ⟨rfl, rfl⟩ | ⟨rfl, rfl⟩ | ⟨rfl, rfl⟩ <;> rfl

theorem fanout_encoded_effects_news :
    FanoutEffects numberedEntry (CallState.run newsCalls).registry
        newsChannels "news" "text" "binary"
        ((CallState.run newsCalls).registry.fanoutEncoded newsChannels "news"
          "text" "binary") ∧
      ((CallState.run newsCalls).registry.fanoutEncoded newsChannels "news"
          "text" "binary").2.2 = ⟨2, 1, [3]⟩ := by
  refine ⟨?_, by decide⟩
  apply fanout_encoded_effects numberedEntry (fun _ _ same => same)
  · exact .calls newsCalls newsCalls_own
  · intro conn
    by_cases third : conn = 3
    · simp [newsChannels, numberedEntry, third, Channel.push, Channel.new]
    · simp [newsChannels, numberedEntry, third, Channel.new]

end TurbocableServer.Connection
