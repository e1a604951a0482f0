import TurbocableServer.Connection.RegistryConsistency
import TurbocableServer.Connection.RegistryRelation

/-!
# Registry states between calls

The states the registry can be in while no call is in progress: after any
sequence of calls, and at the quiet points of any interleaving of the tasks.  In
both the maps represent a relation, and every entry is the one its connection
was registered with.
-/

namespace TurbocableServer.Connection

open Foundations

/-- Every registered connection has the entry that was made for it. -/
def Registry.EntriesOwn (registry : Registry)
    (own : ConnId → ConnectionEntry) : Prop :=
  ∀ conn entry, registry.connections.lookup conn = some entry →
    entry = own conn

namespace Registry.EntriesOwn

variable {registry next : Registry} {own : ConnId → ConnectionEntry}

theorem of_eq (entries : registry.EntriesOwn own)
    (same : next.connections = registry.connections) :
    next.EntriesOwn own := by
  intro conn entry present
  rw [same] at present
  exact entries conn entry present

theorem of_erase {removed : ConnId} (entries : registry.EntriesOwn own)
    (erased : next.connections = registry.connections.erase removed) :
    next.EntriesOwn own := by
  intro conn entry present
  rw [erased, Table.lookup_erase_eq_ite] at present
  split at present
  · cases present
  · exact entries conn entry present

theorem of_insert {added : ConnId} (entries : registry.EntriesOwn own)
    (inserted :
      next.connections = registry.connections.insert added (own added)) :
    next.EntriesOwn own := by
  intro conn entry present
  rw [inserted, Table.lookup_insert_eq_ite] at present
  split at present
  · rename_i same
    rw [same]
    exact (Option.some.inj present).symm
  · exact entries conn entry present

theorem foldl_deregister (conns : List ConnId)
    (entries : registry.EntriesOwn own) :
    (conns.foldl Registry.deregister registry).EntriesOwn own := by
  induction conns generalizing registry with
  | nil => exact entries
  | cons conn rest ih =>
      apply ih
      exact entries.of_erase (deregister_frame registry conn).2.2.1

end Registry.EntriesOwn

/-! ## Sequences of calls -/

section Calls

variable {β : Type} {own : ConnId → ConnectionEntry}

theorem subscribe_connections
    (registry : Registry) (conn : ConnId) (stream : String) :
    (registry.subscribe conn stream).connections = registry.connections := by
  unfold Registry.subscribe
  split
  · rfl
  · split <;> rfl

theorem CallState.entriesOwn_call {state : CallState} {call : Call β}
    (registers : ∀ conn entry, call = .register conn entry → entry = own conn)
    (entries : state.registry.EntriesOwn own) :
    (state.call call).registry.EntriesOwn own := by
  cases call with
  | allocateId => exact entries
  | register conn entry =>
      rw [CallState.call]
      split
      · apply entries.of_insert
        rw [← registers conn entry rfl]
        rfl
      · exact entries
  | subscribe conn stream =>
      exact entries.of_eq (subscribe_connections _ conn stream)
  | unsubscribe conn stream =>
      apply entries.of_eq
      simp [CallState.call, Registry.unsubscribe]
  | deregister conn =>
      exact entries.of_erase (deregister_frame _ conn).2.2.1
  | fanoutEncoded channels stream jsonPayload binaryPayload =>
      exact Registry.EntriesOwn.foldl_deregister _ entries

theorem CallState.entriesOwn_run {calls : List (Call β)}
    (registers :
      ∀ conn entry, Call.register conn entry ∈ calls → entry = own conn) :
    (CallState.run calls).registry.EntriesOwn own := by
  have throughout : ∀ (remaining : List (Call β)) (state : CallState),
      (∀ conn entry, Call.register conn entry ∈ remaining →
        entry = own conn) →
      state.registry.EntriesOwn own →
      (remaining.foldl CallState.call state).registry.EntriesOwn own := by
    intro remaining
    induction remaining with
    | nil =>
        intro state _ entries
        exact entries
    | cons call rest ih =>
        intro state registered entries
        apply ih
        · intro conn entry member
          exact registered conn entry (List.mem_cons_of_mem call member)
        · apply entriesOwn_call _ entries
          intro conn entry isCall
          exact registered conn entry (isCall ▸ List.mem_cons_self)
  apply throughout calls CallState.initial registers
  intro conn entry present
  cases present

end Calls

/-! ## Interleaved calls -/

/-- Without a call in progress, `connections` and `conn_streams` have the same
keys. -/
theorem ConnView.Coherent.held_of_quiet {view : ConnView}
    (coherent : view.Coherent) (quiet : view.Quiet)
    (registered : view.registered) : view.held ≠ none := by
  rcases coherent.keysAgree.2 registered with
    held | inserting | ⟨pc, deregistering⟩ | ⟨pc, evicting, -⟩
  · exact held
  · simp [ConnView.Quiet, inserting] at quiet
  · simp [ConnView.Quiet, deregistering] at quiet
  · simp [ConnView.Quiet, evicting] at quiet

namespace RegSystem

variable {own : ConnId → ConnectionEntry} {sys next : RegSystem}

/-- Connections are registered with their own entries. -/
def RegistersOwn (own : ConnId → ConnectionEntry) (_ : RegSystem) :
    RegAction → Prop
  | .register conn entry => entry = own conn
  | _ => True

theorem entriesOwn_deregStep {registry : Registry}
    (entries : registry.EntriesOwn own) (conn : ConnId) (pc : DeregPc) :
    (deregStep registry conn pc).1.EntriesOwn own := by
  cases pc with
  | takeStreams => exact entries
  | detaching todo =>
      cases todo with
      | nil => exact entries.of_erase rfl
      | cons stream rest => exact entries
  | pruning stream rest =>
      exact entries.of_eq (Registry.removeIfEmpty_connections registry stream)
  | countingDown => exact entries

theorem Steps.entriesOwn {action : RegAction}
    (steps : Steps sys action next)
    (registers : RegistersOwn own sys action)
    (entries : sys.reg.EntriesOwn own) : next.reg.EntriesOwn own := by
  cases steps with
  | register conn entry unborn =>
      apply entries.of_insert
      rw [← show entry = own conn from registers]
      rfl
  | prune conn stream here unlocked =>
      exact entries.of_eq (Registry.removeIfEmpty_connections sys.reg stream)
  | deregister conn ready =>
      rw [taskDeregister_reg]
      exact entriesOwn_deregStep entries conn _
  | deregStep conn pc here unlocked =>
      rw [taskDeregister_reg]
      exact entriesOwn_deregStep entries conn pc
  | evict conn pc rest here unlocked =>
      rw [fanDeregister_reg]
      exact entriesOwn_deregStep entries conn pc
  | _ => exact entries

theorem entriesOwn_of_run
    (run : Reaches step (RegistersOwn own) initial sys) :
    sys.reg.EntriesOwn own := by
  have kept : ∀ source action target, RegistersOwn own source action →
      step source action = some target →
      source.reg.EntriesOwn own → target.reg.EntriesOwn own :=
    fun _ _ _ registers moved entries =>
      (steps_of_step moved).entriesOwn registers entries
  apply Reaches.invariant kept run
  intro conn entry present
  cases present

/-- The relation that the maps agree on. -/
def relation (sys : RegSystem) : AbstractRegistry where
  live := sys.reg.connections.keys
  pairs :=
    sys.reg.connections.keys.biUnion (fun conn =>
      (sys.reg.streamsOf conn).toFinset.image (fun stream => (conn, stream)))

theorem mem_relation_pairs {conn : ConnId} {stream : String} :
    (conn, stream) ∈ sys.relation.pairs ↔
      conn ∈ sys.reg.connections ∧ stream ∈ sys.reg.streamsOf conn := by
  simp [relation, Finmap.mem_keys]

theorem Sound.represents (sound : sys.Sound) (quiet : sys.Quiet) :
    Represents sys.reg sys.relation := by
  have consistent := sound.consistent quiet
  have registered : ∀ conn,
      sys.reg.connStreams.lookup conn ≠ none → conn ∈ sys.reg.connections :=
    fun conn => (sound.coherent conn).keysAgree.1
  have holds_iff : ∀ conn stream,
      stream ∈ sys.reg.streamsOf conn ↔
        (conn, stream) ∈ sys.relation.pairs := by
    intro conn stream
    rw [mem_relation_pairs]
    constructor
    · intro member
      refine ⟨registered conn ?_, member⟩
      intro missing
      rw [Registry.streamsOf, missing] at member
      cases member
    · intro both
      exact both.2
  refine
    { subscribers_iff := ?_, streamsOf_iff := holds_iff,
      subscribers_nodup := consistent.subscribers_nodup,
      streamsOf_nodup := consistent.streamsOf_nodup,
      no_empty_entry := consistent.no_empty_entry,
      connections_keys := rfl, connStreams_keys := ?_,
      active_eq := consistent.active_eq }
  · intro conn stream
    rw [consistent.subscribers_iff, holds_iff]
  · ext conn
    rw [Finmap.mem_keys, Table.mem_iff_isSome, Option.isSome_iff_ne_none]
    change _ ↔ conn ∈ sys.reg.connections.keys
    rw [Finmap.mem_keys]
    exact ⟨registered conn, (sound.coherent conn).held_of_quiet (quiet.view conn)⟩

end RegSystem

/-! ## Both -/

/-- A state of the registry in which no call is in progress. -/
inductive ReachableRegistry (own : ConnId → ConnectionEntry) :
    Registry → Prop
  | calls {β : Type} (calls : List (Call β)) :
      (∀ conn entry, Call.register conn entry ∈ calls → entry = own conn) →
      ReachableRegistry own (CallState.run calls).registry
  | interleaved (sys : RegSystem) :
      Reaches RegSystem.step (RegSystem.RegistersOwn own) RegSystem.initial
        sys →
      sys.Quiet →
      ReachableRegistry own sys.reg

namespace ReachableRegistry

variable {own : ConnId → ConnectionEntry} {registry : Registry}

theorem exists_represents (reachable : ReachableRegistry own registry) :
    ∃ abstract, Represents registry abstract := by
  cases reachable with
  | calls calls registers =>
      exact ⟨_, (CallState.sound_run calls).represents⟩
  | interleaved sys run quiet =>
      have sound : sys.Sound :=
        RegSystem.Reachable.sound (run.weaken (fun _ _ _ => trivial))
      exact ⟨_, sound.represents quiet⟩

theorem entriesOwn (reachable : ReachableRegistry own registry) :
    registry.EntriesOwn own := by
  cases reachable with
  | calls calls registers => exact CallState.entriesOwn_run registers
  | interleaved sys run quiet => exact RegSystem.entriesOwn_of_run run

end ReachableRegistry

end TurbocableServer.Connection
