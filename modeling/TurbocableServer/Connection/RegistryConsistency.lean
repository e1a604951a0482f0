import TurbocableServer.Connection.RegistryInterleaving

/-!
# Consistency of the interleaved registry

The invariant of the interleaved registry: every connection's view is coherent,
and the parts that connections share (subscriber lists, the counter, the ids the
fan-out task still has to treat) fit the views.  When no call is in progress the
views leave nothing pending, and the maps agree exactly.
-/

namespace TurbocableServer.Connection

open Foundations

namespace RegSystem

variable {sys next : RegSystem} {conn other : ConnId}

/-! ## The fan-out task and the returned calls -/

theorem pending_fanDeregister {pc : DeregPc} {rest : List ConnId}
    (member : conn ∈ (sys.fanDeregister other pc rest).fan.pending) :
    conn ∈ other :: rest := by
  rw [fanDeregister] at member
  split at member
  · exact member
  · rw [FanPc.pending_evictNext] at member
    exact List.mem_cons_of_mem other member

/-- The ids the fan-out task has to treat come from a subscriber list. -/
theorem Steps.pending {action : RegAction}
    (steps : Steps sys action next)
    (member : conn ∈ next.fan.pending) :
    conn ∈ sys.fan.pending ∨
      ∃ stream, conn ∈ sys.reg.subscribers stream := by
  cases steps with
  | fanout stream subscribers idle present =>
      refine Or.inr ⟨stream, ?_⟩
      simpa [FanPc.pending, Registry.subscribers, present] using member
  | refused stream target todo evicted here present =>
      left
      simp only [here, FanPc.pending, List.mem_append, List.mem_cons,
        List.not_mem_nil, or_false] at member ⊢
      tauto
  | passed stream target todo evicted accepted here served =>
      left
      simp only [here, FanPc.pending, List.mem_append, List.mem_cons]
        at member ⊢
      tauto
  | release stream evicted here =>
      left
      rw [FanPc.pending_evictNext] at member
      simpa [here, FanPc.pending] using member
  | evict target pc rest here unlocked =>
      left
      rw [here]
      exact pending_fanDeregister member
  | deregister target ready | deregStep target pc here unlocked =>
      rw [taskDeregister_fan] at member
      exact Or.inl member
  | _ => exact Or.inl member

/-- A `deregister` call of the task returns with the task gone. -/
theorem deregistered_taskDeregister {pc : DeregPc}
    (member : conn ∈ (sys.taskDeregister other pc).deregistered) :
    conn ∈ sys.deregistered ∨
      conn = other ∧ (sys.taskDeregister other pc).task other = .gone := by
  rw [taskDeregister] at member ⊢
  split at member
  · exact Or.inl member
  · rcases List.mem_append.mp member with earlier | last
    · exact Or.inl earlier
    · refine Or.inr ⟨List.mem_singleton.mp last, ?_⟩
      simp_all [move]

/-- A `deregister` call of the fan-out task returns when the maps no longer
know the id. -/
theorem deregistered_fanDeregister {pc : DeregPc} {rest : List ConnId}
    (coherent : (sys.view other).Coherent)
    (here : sys.fan = .evicting other pc rest)
    (member : conn ∈ (sys.fanDeregister other pc rest).deregistered) :
    conn ∈ sys.deregistered ∨ conn = other ∧ (sys.view other).Absent := by
  have evicting : (sys.view other).evicting = some pc := by
    simp [view, here]
  have born := coherent.birthStages.2.2.2 (by simp [evicting])
  have released := coherent.detached.2.1 pc evicting
  rw [fanDeregister] at member
  split at member
  · exact Or.inl member
  · rename_i registry returns
    rcases List.mem_append.mp member with earlier | last
    · exact Or.inl earlier
    · refine Or.inr ⟨List.mem_singleton.mp last, born, ?_⟩
      cases pc with
      | takeStreams =>
          cases returns
      | detaching todo =>
          refine ⟨fun present => ?_, released (by simp)⟩
          cases todo with
          | nil =>
              have registered : other ∈ sys.reg.connections := present
              simp [deregStep, registered] at returns
          | cons stream rest =>
              cases returns
      | pruning stream rest =>
          cases returns
      | countingDown =>
          exact ⟨coherent.countingDown.2 evicting, released (by simp)⟩

/-! ## The invariant -/

structure Sound (sys : RegSystem) : Prop where
  coherent : ∀ conn, (sys.view conn).Coherent
  pendingBorn : ∀ conn, conn ∈ sys.fan.pending → (sys.task conn).Born
  subscribersNodup : ∀ stream, (sys.reg.subscribers stream).Nodup
  emptyPruned :
    ∀ stream, sys.reg.streams.lookup stream = some [] →
      ∃ conn, (sys.view conn).PruningAt stream
  counted :
    ∃ members : Finset ConnId,
      sys.reg.active = (members.card : Int) ∧
        ∀ conn, conn ∈ members ↔ (sys.view conn).Counted
  deregisteredAbsent :
    ∀ conn, conn ∈ sys.deregistered → (sys.view conn).Absent

theorem initial_view_coherent (conn : ConnId) :
    (initial.view conn).Coherent := by
  constructor <;>
    simp [view, initial, Registry.new, Registry.subscribers,
      Finmap.notMem_empty, ConnView.ListedOwned, ConnView.HeldListed, ConnView.HeldNodup,
      ConnView.GuardHeld, ConnView.UnsubscribingUnlisted,
      ConnView.BirthStages, ConnView.Detached, ConnView.KeysAgree,
      ConnView.CountingDown]

theorem initial_sound : initial.Sound where
  coherent := initial_view_coherent
  pendingBorn := by
    intro conn member
    cases member
  subscribersNodup := by
    intro stream
    simp [initial, Registry.new, Registry.subscribers]
  emptyPruned := by
    intro stream empty
    simp [initial, Registry.new] at empty
  counted := by
    refine ⟨∅, rfl, fun conn => ?_⟩
    simp [ConnView.Counted, view, initial, Registry.new, Finmap.notMem_empty]
  deregisteredAbsent := by
    intro conn member
    cases member

theorem Moves.view_cases {effect : SharedEffect}
    (moves : Moves sys next conn effect) (other : ConnId) :
    next.view other = sys.view other ∨
      ∃ local_, ViewStep (sys.view other) local_ (next.view other) := by
  by_cases same : other = conn
  · subst same
    exact Or.inr ⟨effect, moves.own⟩
  · rcases moves.others other same with unchanged | begun
    · exact Or.inl unchanged
    · exact Or.inr ⟨.nothing, begun⟩

/-- What every access keeps of a view, the move keeps of all views. -/
theorem Moves.view_keeps {effect : SharedEffect} {holds : ConnView → Prop}
    (moves : Moves sys next conn effect)
    (kept :
      ∀ view label after,
        holds view → ViewStep view label after → holds after)
    (other : ConnId) (before : holds (sys.view other)) :
    holds (next.view other) := by
  rcases moves.view_cases other with same | ⟨label, moved⟩
  · rw [same]
    exact before
  · exact kept _ label _ before moved

/-! ### Subscriber lists -/

theorem Moves.subscribersNodup {effect : SharedEffect}
    (moves : Moves sys next conn effect)
    (coherent : (sys.view conn).Coherent)
    (nodup : ∀ stream, (sys.reg.subscribers stream).Nodup)
    (stream : String) :
    (next.reg.subscribers stream).Nodup := by
  have shared := moves.shared
  have own := moves.own
  cases effect with
  | push pushed =>
      have absent := coherent.not_listed_of_pushing own.task_of_push
      rw [Registry.subscribers_congr shared.1,
        Registry.subscribers_pushSubscriber]
      split
      · refine (nodup pushed).append (List.nodup_singleton conn) ?_
        rw [List.disjoint_singleton]
        exact absent
      · exact nodup stream
  | retain detached emptied =>
      rw [Registry.subscribers_congr shared.1,
        Registry.subscribers_retainSubscribers]
      split
      · exact (nodup detached).filter _
      · exact nodup stream
  | prune pruned =>
      rw [Registry.subscribers_congr shared.1,
        Registry.subscribers_removeIfEmpty]
      exact nodup stream
  | _ =>
      rw [Registry.subscribers_congr shared.1]
      exact nodup stream

/-- A stream entry that is empty after a retain was emptied by it, or was
empty before. -/
theorem lookup_retainSubscribers_nil {registry : Registry}
    {stream tested : String}
    (empty :
      (registry.retainSubscribers stream conn).streams.lookup tested =
        some []) :
    tested = stream ∧ registry.shouldRemove stream conn = true ∨
      registry.streams.lookup tested = some [] := by
  rw [Registry.retainSubscribers_streams, Table.lookup_modify] at empty
  split at empty
  · rename_i same
    left
    refine ⟨same, ?_⟩
    obtain ⟨subscribers, present, filtered⟩ :=
      Option.map_eq_some_iff.mp empty
    simp only [Registry.shouldRemove, present, filtered, List.isEmpty_nil]
  · exact Or.inr empty

theorem Moves.emptyPruned {effect : SharedEffect}
    (moves : Moves sys next conn effect)
    (pruned :
      ∀ stream, sys.reg.streams.lookup stream = some [] →
        ∃ other, (sys.view other).PruningAt stream)
    (stream : String) (empty : next.reg.streams.lookup stream = some []) :
    ∃ other, (next.view other).PruningAt stream := by
  have shared := moves.shared
  -- A pruning point is only passed by a removal, after which the entry is
  -- not empty.
  have kept :
      effect ≠ .prune stream →
        sys.reg.streams.lookup stream = some [] →
          ∃ other, (next.view other).PruningAt stream := by
    intro notPruned emptyBefore
    obtain ⟨other, pruning⟩ := pruned stream emptyBefore
    refine ⟨other, ?_⟩
    by_cases same : other = conn
    · subst same
      exact pruning.step moves.own notPruned
    · rcases moves.others other same with unchanged | begun
      · rw [unchanged]
        exact pruning
      · exact pruning.step begun (by simp)
  cases effect with
  | push pushed =>
      refine kept (by simp) ?_
      rw [shared.1, Registry.pushSubscriber_streams,
        Table.lookup_upsert] at empty
      split at empty
      · simp at empty
      · exact empty
  | retain detached emptied =>
      rw [shared.1] at empty
      rcases lookup_retainSubscribers_nil empty with ⟨rfl, removes⟩ | before
      · refine ⟨conn, ?_⟩
        have own := moves.own
        rw [shared.2.1, removes] at own
        exact ConnView.pruningAt_of_emptied own
      · exact kept (by simp) before
  | prune looked =>
      rw [shared.1, Registry.streams_lookup_removeIfEmpty] at empty
      split at empty
      · cases empty
      · rename_i other
        have different : stream ≠ looked := by
          intro same
          exact other ⟨same, same ▸ empty⟩
        exact kept (by simpa using different.symm) empty
  | _ =>
      rw [shared.1] at empty
      exact kept (by simp) empty

/-! ### The counter -/

theorem Moves.counted {effect : SharedEffect}
    (moves : Moves sys next conn effect)
    (coherent : ∀ other, (sys.view other).Coherent)
    (counted :
      ∃ members : Finset ConnId,
        sys.reg.active = (members.card : Int) ∧
          ∀ other, other ∈ members ↔ (sys.view other).Counted) :
    ∃ members : Finset ConnId,
      next.reg.active = (members.card : Int) ∧
        ∀ other, other ∈ members ↔ (next.view other).Counted := by
  obtain ⟨members, active, exact_⟩ := counted
  have others :
      ∀ other, other ≠ conn →
        ((next.view other).Counted ↔ (sys.view other).Counted) := by
    intro other different
    rcases moves.others other different with unchanged | begun
    · rw [unchanged]
    · exact ConnView.counted_iff (coherent other) begun (by simp) (by simp)
  have shared := moves.shared
  have own := moves.own
  have quiet :
      next.reg.active = sys.reg.active →
        effect ≠ .countUp → effect ≠ .countDown →
          ∃ members : Finset ConnId,
            next.reg.active = (members.card : Int) ∧
              ∀ other, other ∈ members ↔ (next.view other).Counted := by
    intro sameActive notUp notDown
    refine ⟨members, by rw [sameActive, active], fun other => ?_⟩
    rw [exact_ other]
    by_cases same : other = conn
    · subst same
      exact (ConnView.counted_iff (coherent other) own notUp notDown).symm
    · exact (others other same).symm
  cases effect with
  | countUp =>
      obtain ⟨notBefore, after⟩ :=
        ConnView.counted_countUp (coherent conn) own
      refine ⟨insert conn members, ?_, fun other => ?_⟩
      · rw [shared.2, active, Finset.card_insert_of_notMem]
        · push_cast
          rfl
        · rw [exact_ conn]
          exact notBefore
      · by_cases same : other = conn
        · subst same
          simp [after]
        · simp [same, exact_ other, others other same]
  | countDown =>
      obtain ⟨before, notAfter⟩ :=
        ConnView.counted_countDown (coherent conn) own
      have member : conn ∈ members := (exact_ conn).mpr before
      refine ⟨members.erase conn, ?_, fun other => ?_⟩
      · have positive := Finset.card_pos.mpr ⟨conn, member⟩
        rw [shared.2, active, Finset.card_erase_of_mem member]
        omega
      · by_cases same : other = conn
        · subst same
          simp [notAfter]
        · simp [same, exact_ other, others other same]
  | retain stream emptied =>
      exact quiet shared.2.2 (by simp) (by simp)
  | _ =>
      exact quiet shared.2 (by simp) (by simp)

/-! ### One step, every run -/

theorem Steps.deregistered {action : RegAction}
    (coherent : ∀ other, (sys.view other).Coherent)
    (coherentNext : ∀ other, (next.view other).Coherent)
    (steps : Steps sys action next)
    (member : conn ∈ next.deregistered) :
    conn ∈ sys.deregistered ∨ (sys.view conn).Absent ∨
      (next.view conn).Absent := by
  have ofTask :
      ∀ target pc, next = sys.taskDeregister target pc →
        conn ∈ sys.deregistered ∨ (sys.view conn).Absent ∨
          (next.view conn).Absent := by
    intro target pc same
    rw [same] at member
    rcases deregistered_taskDeregister member with earlier | ⟨rfl, gone⟩
    · exact Or.inl earlier
    · rw [← same] at gone
      have released := (coherentNext conn).detached.2.2 gone
      refine Or.inr (Or.inr ⟨?_, released.2, released.1⟩)
      rw [show (next.view conn).task = .gone from gone]
      trivial
  cases steps with
  | evict target pc rest here unlocked =>
      rcases deregistered_fanDeregister (coherent target) here member with
        earlier | ⟨rfl, absent⟩
      · exact Or.inl earlier
      · exact Or.inr (Or.inl absent)
  | deregister target ready =>
      exact ofTask target .takeStreams rfl
  | deregStep target pc here unlocked =>
      exact ofTask target pc rfl
  | _ => exact Or.inl member

theorem Sound.step {action : RegAction}
    (sound : sys.Sound) (moved : sys.step action = some next) :
    next.Sound := by
  have steps := steps_of_step moved
  have keeps :
      ∀ {holds : ConnView → Prop},
        (∀ view label after,
          holds view → ViewStep view label after → holds after) →
        ∀ other, holds (sys.view other) → holds (next.view other) := by
    intro holds kept other before
    rcases steps.moves sound.coherent sound.pendingBorn with
      ⟨-, sameView⟩ | ⟨conn, effect, moves⟩
    · rw [sameView]
      exact before
    · exact moves.view_keeps kept other before
  have coherentNext : ∀ other, (next.view other).Coherent :=
    fun other =>
      keeps (fun _ _ _ coherent moved => coherent.step moved) other
        (sound.coherent other)
  have absentKept :
      ∀ other, (sys.view other).Absent → (next.view other).Absent :=
    keeps (fun _ _ _ absent moved => absent.step moved)
  have pendingBorn :
      ∀ other, other ∈ next.fan.pending → (next.task other).Born := by
    intro other member
    have bornBefore : (sys.task other).Born := by
      rcases steps.pending member with earlier | ⟨stream, isListed⟩
      · exact sound.pendingBorn other earlier
      · exact (sound.coherent other).born_of_listed isListed
    exact
      @keeps (fun view => view.task.Born)
        (fun _ _ _ born moved => ConnView.born_step born moved) other
        bornBefore
  have deregisteredAbsent :
      ∀ other, other ∈ next.deregistered → (next.view other).Absent := by
    intro other member
    rcases steps.deregistered sound.coherent coherentNext member with
      earlier | before | after
    · exact absentKept other (sound.deregisteredAbsent other earlier)
    · exact absentKept other before
    · exact after
  rcases steps.moves sound.coherent sound.pendingBorn with
    ⟨sameReg, sameView⟩ | ⟨conn, effect, moves⟩
  · refine ⟨coherentNext, pendingBorn, ?_, ?_, ?_, deregisteredAbsent⟩
    · rw [sameReg]
      exact sound.subscribersNodup
    · rw [sameReg, sameView]
      exact sound.emptyPruned
    · rw [sameReg, sameView]
      exact sound.counted
  · exact
      { coherent := coherentNext
        pendingBorn := pendingBorn
        subscribersNodup :=
          moves.subscribersNodup (sound.coherent conn) sound.subscribersNodup
        emptyPruned := moves.emptyPruned sound.emptyPruned
        counted := moves.counted sound.coherent sound.counted
        deregisteredAbsent := deregisteredAbsent }

/-- Any interleaving of the tasks. -/
abbrev Reachable : RegSystem → Prop :=
  Reaches step (fun _ _ => True) initial

theorem Reachable.sound (run : Reachable sys) : sys.Sound :=
  Reaches.invariant
    (fun _ _ _ _ moved sound => Sound.step sound moved) run initial_sound

/-! ## No call in progress -/

/-- No task is inside a registry call. -/
def Quiet (sys : RegSystem) : Prop :=
  sys.fan = .idle ∧
    ∀ conn,
      sys.task conn = .unborn ∨ sys.task conn = .ready ∨
        sys.task conn = .gone

/-- The maps agree exactly. -/
structure Consistent (sys : RegSystem) : Prop where
  subscribers_iff :
    ∀ conn stream,
      conn ∈ sys.reg.subscribers stream ↔ stream ∈ sys.reg.streamsOf conn
  subscribers_nodup : ∀ stream, (sys.reg.subscribers stream).Nodup
  streamsOf_nodup : ∀ conn, (sys.reg.streamsOf conn).Nodup
  no_empty_entry : ∀ stream, sys.reg.streams.lookup stream ≠ some []
  deregistered_absent :
    ∀ conn, conn ∈ sys.deregistered →
      conn ∉ sys.reg.connections ∧ conn ∉ sys.reg.connStreams ∧
        ∀ stream, conn ∉ sys.reg.subscribers stream
  active_eq : sys.reg.active = (sys.reg.connections.keys.card : Int)

theorem Quiet.view (quiet : sys.Quiet) (conn : ConnId) :
    (sys.view conn).Quiet := by
  refine ⟨?_, quiet.2 conn⟩
  simp [RegSystem.view, quiet.1]

theorem Sound.consistent
    (sound : sys.Sound) (quiet : sys.Quiet) : sys.Consistent := by
  have listed_iff :
      ∀ conn stream,
        conn ∈ sys.reg.subscribers stream ↔
          stream ∈ sys.reg.streamsOf conn :=
    fun conn stream =>
      (sound.coherent conn).listed_iff_of_quiet (quiet.view conn) stream
  refine
    { subscribers_iff := listed_iff
      subscribers_nodup := sound.subscribersNodup
      streamsOf_nodup := ?_
      no_empty_entry := ?_
      deregistered_absent := ?_
      active_eq := ?_ }
  · intro conn
    cases present : sys.reg.connStreams.lookup conn with
    | none =>
        simp [Registry.streamsOf, present]
    | some held =>
        rw [Registry.streamsOf, present]
        exact (sound.coherent conn).heldNodup held present
  · intro stream empty
    obtain ⟨conn, pruning⟩ := sound.emptyPruned stream empty
    exact (quiet.view conn).not_pruningAt stream pruning
  · intro conn member
    obtain ⟨-, notRegistered, missing⟩ :=
      sound.deregisteredAbsent conn member
    have noEntry : sys.reg.connStreams.lookup conn = none := missing
    refine ⟨notRegistered, ?_, ?_⟩
    · rw [← Finmap.lookup_eq_none]
      exact noEntry
    · intro stream isListed
      rw [listed_iff, Registry.streamsOf, noEntry] at isListed
      cases isListed
  · obtain ⟨members, active, member_iff⟩ := sound.counted
    have same : members = sys.reg.connections.keys := by
      ext conn
      rw [member_iff, (quiet.view conn).counted_iff_registered,
        Finmap.mem_keys]
      rfl
    rw [active, same]

/-- In every interleaving the counter stays non-negative, and whenever no call
is in progress the maps agree exactly. -/
theorem registry_consistent_when_quiet (run : Reachable sys) :
    0 ≤ sys.reg.active ∧ (sys.Quiet → sys.Consistent) := by
  have sound := run.sound
  obtain ⟨members, active, -⟩ := sound.counted
  constructor
  · rw [active]
    exact Int.natCast_nonneg _
  · intro quiet
    exact sound.consistent quiet

/-- The only subscriber refuses a payload and is evicted; afterwards its own
task deregisters the id once more. -/
def evictionRun : List RegAction :=
  [.register 1 ⟨0, 0, false⟩, .advance 1, .advance 1,
    .subscribe 1 "news", .advance 1, .advance 1,
    .fanout "news", .deliver false, .release,
    .evict, .evict, .evict, .evict, .evict,
    .deregister 1, .advance 1]

def evictedTwice : RegSystem :=
  (execute step (fun _ _ => True) initial evictionRun).get (by decide)

theorem evictedTwice_reachable : Reachable evictedTwice :=
  reaches_execute_get _

theorem evictedTwice_quiet : evictedTwice.Quiet := by
  refine ⟨by decide, fun conn => ?_⟩
  by_cases same : conn = 1
  · subst same
    decide
  · left
    repeat'
      first
      | exact rfl
      | refine (Function.update_of_ne same _ _).trans ?_

theorem registry_consistent_evictedTwice :
    evictedTwice.deregistered = [1, 1] ∧ 0 ≤ evictedTwice.reg.active ∧
      evictedTwice.Consistent := by
  obtain ⟨nonnegative, consistent⟩ :=
    registry_consistent_when_quiet evictedTwice_reachable
  exact ⟨by decide, nonnegative, consistent evictedTwice_quiet⟩

end RegSystem

end TurbocableServer.Connection
