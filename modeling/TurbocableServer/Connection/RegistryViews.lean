import Mathlib.Tactic.Common
import TurbocableServer.Connection.RegistryTasks

/-!
# The interleaved registry seen from one connection

A `ConnView` is all that the maps and the program points say about one id, and
`ViewStep` lists what a single access can do to such a view.  That the maps
agree about a connection, up to what its calls in progress have left to do, is
then a case analysis over the list.
-/

namespace TurbocableServer.Connection

open Foundations

@[ext]
structure ConnView where
  registered : Prop
  held : Option (List String)
  listed : String → Prop
  task : TaskPc
  evicting : Option DeregPc

/-- The `deregister` call of the fan-out task on `conn`, if it is in one. -/
def FanPc.deregOf : FanPc → ConnId → Option DeregPc
  | .evicting target pc _, conn => if conn = target then some pc else none
  | _, _ => none

@[simp]
theorem FanPc.deregOf_idle (conn : ConnId) :
    FanPc.idle.deregOf conn = none :=
  rfl

@[simp]
theorem FanPc.deregOf_scanning
    (stream : String) (todo evicted : List ConnId) (conn : ConnId) :
    (FanPc.scanning stream todo evicted).deregOf conn = none :=
  rfl

@[simp]
theorem FanPc.deregOf_evicting
    (target : ConnId) (pc : DeregPc) (rest : List ConnId) (conn : ConnId) :
    (FanPc.evicting target pc rest).deregOf conn =
      if conn = target then some pc else none :=
  rfl

theorem FanPc.deregOf_evictNext (evicted : List ConnId) (conn : ConnId) :
    (RegSystem.evictNext evicted).deregOf conn =
      if evicted.head? = some conn then some .takeStreams else none := by
  cases evicted with
  | nil =>
      rfl
  | cons target rest =>
      simp [RegSystem.evictNext, eq_comm]

/-- The ids the fan-out task still has to serve or to evict. -/
def FanPc.pending : FanPc → List ConnId
  | .idle => []
  | .scanning _ todo evicted => todo ++ evicted
  | .evicting conn _ rest => conn :: rest

theorem FanPc.pending_evictNext (evicted : List ConnId) :
    (RegSystem.evictNext evicted).pending = evicted := by
  cases evicted <;> rfl

def RegSystem.view (sys : RegSystem) (conn : ConnId) : ConnView where
  registered := conn ∈ sys.reg.connections
  held := sys.reg.connStreams.lookup conn
  listed := fun stream => conn ∈ sys.reg.subscribers stream
  task := sys.task conn
  evicting := sys.fan.deregOf conn

/-- Registration is over. -/
def TaskPc.Born : TaskPc → Prop
  | .unborn => False
  | .insertingStreams => False
  | .countingUp => False
  | _ => True

/-! ## What an access can do to a view -/

/-- What an access does to the parts that several connections share: the
subscriber lists and the counter. -/
inductive SharedEffect where
  | nothing
  | push (stream : String)
  | retain (stream : String) (emptied : Bool)
  | prune (stream : String)
  | countUp
  | countDown

inductive ViewStep (view : ConnView) : SharedEffect → ConnView → Prop
  | insertConnection :
      view.task = .unborn →
      ViewStep view .nothing
        { view with registered := True, task := .insertingStreams }
  | insertConnStreams :
      view.task = .insertingStreams →
      ViewStep view .nothing
        { view with held := some [], task := .countingUp }
  | countUp :
      view.task = .countingUp →
      ViewStep view .countUp { view with task := .ready }
  | lock (stream : String) (held : List String) :
      view.task = .ready → view.held = some held → stream ∉ held →
      ViewStep view .nothing { view with task := .pushing stream }
  | push (stream : String) :
      view.task = .pushing stream →
      ViewStep view (.push stream)
        { view with
          listed := fun tested => tested = stream ∨ view.listed tested
          task := .recording stream }
  | record (stream : String) (held : List String) :
      view.task = .recording stream → view.held = some held →
      ViewStep view .nothing
        { view with held := some (held ++ [stream]), task := .ready }
  | retain (stream : String) (emptied : Bool) :
      view.task = .ready →
      ViewStep view (.retain stream emptied)
        { view with
          listed := fun tested => tested ≠ stream ∧ view.listed tested
          task := if emptied then .pruning stream else .forgetting stream }
  | prune (stream : String) :
      view.task = .pruning stream →
      ViewStep view (.prune stream) { view with task := .forgetting stream }
  | forget (stream : String) :
      view.task = .forgetting stream →
      ViewStep view .nothing
        { view with
          held := view.held.map (fun held => held.filter (· ≠ stream))
          task := .ready }
  | ownTake :
      view.task = .ready ∨ view.task = .deregistering .takeStreams →
      ViewStep view .nothing
        { view with
          held := none
          task := .deregistering (.detaching (view.held.getD [])) }
  | ownDetach (stream : String) (rest : List String) (emptied : Bool) :
      view.task = .deregistering (.detaching (stream :: rest)) →
      ViewStep view (.retain stream emptied)
        { view with
          listed := fun tested => tested ≠ stream ∧ view.listed tested
          task :=
            .deregistering
              (if emptied then .pruning stream rest else .detaching rest) }
  | ownPrune (stream : String) (rest : List String) :
      view.task = .deregistering (.pruning stream rest) →
      ViewStep view (.prune stream)
        { view with task := .deregistering (.detaching rest) }
  | ownDrop :
      view.task = .deregistering (.detaching []) → view.registered →
      ViewStep view .nothing
        { view with
          registered := False, task := .deregistering .countingDown }
  | ownLeave :
      view.task = .deregistering (.detaching []) → ¬ view.registered →
      ViewStep view .nothing { view with task := .gone }
  | ownCount :
      view.task = .deregistering .countingDown →
      ViewStep view .countDown { view with task := .gone }
  | fanBegin :
      view.evicting = none → view.task.Born →
      ViewStep view .nothing { view with evicting := some .takeStreams }
  | fanTake :
      view.evicting = some .takeStreams →
      (∀ stream, view.task ≠ .pushing stream) →
      (∀ stream, view.task ≠ .recording stream) →
      ViewStep view .nothing
        { view with
          held := none
          evicting := some (.detaching (view.held.getD [])) }
  | fanDetach (stream : String) (rest : List String) (emptied : Bool) :
      view.evicting = some (.detaching (stream :: rest)) →
      ViewStep view (.retain stream emptied)
        { view with
          listed := fun tested => tested ≠ stream ∧ view.listed tested
          evicting :=
            some
              (if emptied then .pruning stream rest else .detaching rest) }
  | fanPrune (stream : String) (rest : List String) :
      view.evicting = some (.pruning stream rest) →
      ViewStep view (.prune stream)
        { view with evicting := some (.detaching rest) }
  | fanDrop :
      view.evicting = some (.detaching []) → view.registered →
      ViewStep view .nothing
        { view with registered := False, evicting := some .countingDown }
  | fanLeave (next : Option DeregPc) :
      view.evicting = some (.detaching []) → ¬ view.registered →
      next = none ∨ next = some .takeStreams →
      ViewStep view .nothing { view with evicting := next }
  | fanCount (next : Option DeregPc) :
      view.evicting = some .countingDown →
      next = none ∨ next = some .takeStreams →
      ViewStep view .countDown { view with evicting := next }

theorem ViewStep.of_eq {view next target : ConnView} {effect : SharedEffect}
    (moved : ViewStep view effect next) (same : target = next) :
    ViewStep view effect target := by
  rw [same]
  exact moved

theorem ViewStep.task_of_push {view next : ConnView} {stream : String}
    (moved : ViewStep view (.push stream) next) :
    view.task = .pushing stream := by
  cases moved
  assumption

/-! ## Coherent views -/

namespace ConnView

/-- Some `deregister` call on the connection still has `stream` on its list. -/
def ToDetach (view : ConnView) (stream : String) : Prop :=
  ∃ todo, stream ∈ todo ∧
    (view.task = .deregistering (.detaching todo) ∨
      view.evicting = some (.detaching todo) ∨
      (∃ pruned, view.task = .deregistering (.pruning pruned todo)) ∨
      ∃ pruned, view.evicting = some (.pruning pruned todo))

/-- A stream that lists the connection is on its own list, or some call is
about to put it there or to take the connection off. -/
def ListedOwned (view : ConnView) : Prop :=
  ∀ stream, view.listed stream →
    (∃ held, view.held = some held ∧ stream ∈ held) ∨
      view.task = .recording stream ∨ view.ToDetach stream

/-- A stream on the connection's own list lists it, unless an `unsubscribe` is
half done. -/
def HeldListed (view : ConnView) : Prop :=
  ∀ held stream, view.held = some held → stream ∈ held →
    view.listed stream ∨ view.task = .pruning stream ∨
      view.task = .forgetting stream

def HeldNodup (view : ConnView) : Prop :=
  ∀ held, view.held = some held → held.Nodup

/-- The guard of `subscribe` sits on an entry without the stream. -/
def GuardHeld (view : ConnView) : Prop :=
  ∀ stream,
    (view.task = .pushing stream ∨ view.task = .recording stream →
      ∃ held, view.held = some held ∧ stream ∉ held) ∧
      (view.task = .recording stream → view.listed stream)

def UnsubscribingUnlisted (view : ConnView) : Prop :=
  ∀ stream,
    view.task = .pruning stream ∨ view.task = .forgetting stream →
      ¬ view.listed stream

/-- The maps during registration. -/
def BirthStages (view : ConnView) : Prop :=
  (view.task = .unborn → ¬ view.registered ∧ view.held = none) ∧
    (view.task = .insertingStreams →
      view.registered ∧ view.held = none) ∧
    (view.task = .countingUp →
      view.registered ∧ view.held = some []) ∧
    (view.evicting ≠ none → view.task.Born)

/-- A `deregister` call past its first access has emptied the connection's
entry in `conn_streams` for good. -/
def Detached (view : ConnView) : Prop :=
  (∀ pc, view.task = .deregistering pc → view.held = none) ∧
    (∀ pc, view.evicting = some pc → pc ≠ .takeStreams →
      view.held = none) ∧
    (view.task = .gone → view.held = none ∧ ¬ view.registered)

/-- `connections` and `conn_streams` have the same keys, up to calls in
progress. -/
def KeysAgree (view : ConnView) : Prop :=
  (view.held ≠ none → view.registered) ∧
    (view.registered →
      view.held ≠ none ∨ view.task = .insertingStreams ∨
        (∃ pc, view.task = .deregistering pc) ∨
        ∃ pc, view.evicting = some pc ∧ pc ≠ .takeStreams)

/-- At most one call has removed the connection and is about to count it out. -/
def CountingDown (view : ConnView) : Prop :=
  (view.task = .deregistering .countingDown →
    ¬ view.registered ∧ view.evicting ≠ some .countingDown) ∧
    (view.evicting = some .countingDown → ¬ view.registered)

structure Coherent (view : ConnView) : Prop where
  listedOwned : view.ListedOwned
  heldListed : view.HeldListed
  heldNodup : view.HeldNodup
  guardHeld : view.GuardHeld
  unsubscribingUnlisted : view.UnsubscribingUnlisted
  birthStages : view.BirthStages
  detached : view.Detached
  keysAgree : view.KeysAgree
  countingDown : view.CountingDown

variable {view next : ConnView} {effect : SharedEffect}

private theorem listedOwned_step
    (coherent : view.Coherent) (moved : ViewStep view effect next) :
    next.ListedOwned := by
  have owned := coherent.listedOwned
  cases moved with
  | push stream atPush =>
      -- The pushed stream is owned by the guard, the others as before.
      intro tested isListed
      rcases isListed with same | earlier
      · exact Or.inr (Or.inl (by rw [same]))
      · grind [ListedOwned, ToDetach]
  | forget stream atForget =>
      -- The stream leaves the list only after the connection left it.
      have unlisted :=
        coherent.unsubscribingUnlisted stream (Or.inr atForget)
      intro tested isListed
      have different : tested ≠ stream := by
        intro same
        exact unlisted (same ▸ isListed)
      rcases owned tested isListed with
        ⟨held, present, member⟩ | recording | pending
      · refine Or.inl ⟨held.filter (· ≠ stream), ?_, ?_⟩
        · simp [present]
        · simp [member, different]
      · rw [atForget] at recording
        cases recording
      · grind [ToDetach]
  | ownTake atTake =>
      -- The whole list moves into the call's own list.
      intro tested isListed
      right
      right
      rcases owned tested isListed with
        ⟨held, present, member⟩ | recording | pending
      · exact ⟨held, member, Or.inl (by simp [present])⟩
      · rw [recording] at atTake
        simp at atTake
      · grind [ToDetach]
  | fanTake atTake notPushing notRecording =>
      intro tested isListed
      right
      right
      rcases owned tested isListed with
        ⟨held, present, member⟩ | recording | pending
      · exact ⟨held, member, Or.inr (Or.inl (by simp [present]))⟩
      · exact absurd recording (notRecording tested)
      · grind [ToDetach]
  | _ => grind [ListedOwned, ToDetach, Coherent, GuardHeld, BirthStages]

private theorem heldListed_step
    (coherent : view.Coherent) (moved : ViewStep view effect next) :
    next.HeldListed := by
  have heldListed := coherent.heldListed
  cases moved with
  | forget stream atForget =>
      intro held tested present member
      obtain ⟨before, presentBefore, rfl⟩ := Option.map_eq_some_iff.mp present
      simp only [List.mem_filter, decide_eq_true_eq] at member
      have earlier := heldListed before tested presentBefore member.1
      rw [atForget] at earlier
      rcases earlier with isListed | pruning | forgetting
      · exact Or.inl isListed
      · cases pruning
      · cases forgetting
        exact absurd rfl member.2
  | _ => grind [HeldListed, Coherent, GuardHeld, Detached, BirthStages]

private theorem heldNodup_step
    (coherent : view.Coherent) (moved : ViewStep view effect next) :
    next.HeldNodup := by
  have heldNodup := coherent.heldNodup
  cases moved with
  | record stream held atRecord present =>
      obtain ⟨guarded, -⟩ := coherent.guardHeld stream
      obtain ⟨same, presentSame, absent⟩ := guarded (Or.inr atRecord)
      obtain rfl : held = same :=
        Option.some.inj (present.symm.trans presentSame)
      intro extended isExtended
      rw [← Option.some.inj isExtended]
      refine (heldNodup held present).append
        (List.nodup_singleton stream) ?_
      rw [List.disjoint_singleton]
      exact absent
  | forget stream atForget =>
      intro held present
      obtain ⟨before, presentBefore, rfl⟩ := Option.map_eq_some_iff.mp present
      exact (heldNodup before presentBefore).filter _
  | insertConnStreams atInsert =>
      intro held present
      rw [← Option.some.inj present]
      exact List.nodup_nil
  | ownTake _ | fanTake _ _ _ =>
      intro held present
      cases present
  | _ => exact heldNodup

private theorem guardHeld_step
    (coherent : view.Coherent) (moved : ViewStep view effect next) :
    next.GuardHeld := by
  have guardHeld := coherent.guardHeld
  cases moved with
  | lock stream held atReady present absent =>
      intro tested
      constructor
      · rintro (pushing | recording)
        · cases pushing
          exact ⟨held, present, absent⟩
        · cases recording
      · intro recording
        cases recording
  | push stream atPush =>
      intro tested
      obtain ⟨guarded, -⟩ := guardHeld stream
      constructor
      · rintro (pushing | recording)
        · cases pushing
        · cases recording
          exact guarded (Or.inl atPush)
      · intro recording
        cases recording
        exact Or.inl rfl
  | fanTake _ notPushing notRecording =>
      -- The guard blocks the removal, so there is none here.
      intro tested
      constructor
      · rintro (pushing | recording)
        · exact absurd pushing (notPushing tested)
        · exact absurd recording (notRecording tested)
      · intro recording
        exact absurd recording (notRecording tested)
  | _ => grind [GuardHeld, Coherent, Detached]

private theorem unsubscribingUnlisted_step
    (coherent : view.Coherent) (moved : ViewStep view effect next) :
    next.UnsubscribingUnlisted := by
  have unlisted := coherent.unsubscribingUnlisted
  cases moved with
  | retain stream emptied atReady =>
      intro tested unsubscribing isListed
      have same : tested = stream := by
        cases emptied <;> simpa [eq_comm] using unsubscribing
      exact isListed.1 same
  | _ => grind [UnsubscribingUnlisted]

private theorem birthStages_step
    (coherent : view.Coherent) (moved : ViewStep view effect next) :
    next.BirthStages := by
  have stages := coherent.birthStages
  cases moved <;> grind [BirthStages, TaskPc.Born]

private theorem detached_step
    (coherent : view.Coherent) (moved : ViewStep view effect next) :
    next.Detached := by
  have detached := coherent.detached
  have stages := coherent.birthStages
  have guardHeld := coherent.guardHeld
  have counting := coherent.countingDown
  cases moved <;>
    grind [Detached, BirthStages, GuardHeld, CountingDown, TaskPc.Born]

private theorem keysAgree_step
    (coherent : view.Coherent) (moved : ViewStep view effect next) :
    next.KeysAgree := by
  have keys := coherent.keysAgree
  have stages := coherent.birthStages
  have detached := coherent.detached
  have counting := coherent.countingDown
  cases moved with
  | forget stream atForget =>
      cases present : view.held with
      | none => grind [KeysAgree]
      | some held => grind [KeysAgree]
  | _ => grind [KeysAgree, BirthStages, Detached, CountingDown]

private theorem countingDown_step
    (coherent : view.Coherent) (moved : ViewStep view effect next) :
    next.CountingDown := by
  have counting := coherent.countingDown
  have stages := coherent.birthStages
  cases moved <;> grind [CountingDown, BirthStages, TaskPc.Born]

/-- Every access keeps a view coherent. -/
theorem Coherent.step
    (coherent : view.Coherent) (moved : ViewStep view effect next) :
    next.Coherent where
  listedOwned := listedOwned_step coherent moved
  heldListed := heldListed_step coherent moved
  heldNodup := heldNodup_step coherent moved
  guardHeld := guardHeld_step coherent moved
  unsubscribingUnlisted := unsubscribingUnlisted_step coherent moved
  birthStages := birthStages_step coherent moved
  detached := detached_step coherent moved
  keysAgree := keysAgree_step coherent moved
  countingDown := countingDown_step coherent moved

/-! ## What the shared parts know about a view -/

/-- Some call on the connection is about to look at the entry of `stream`, to
remove it if it is empty. -/
def PruningAt (view : ConnView) (stream : String) : Prop :=
  view.task = .pruning stream ∨
    (∃ todo, view.task = .deregistering (.pruning stream todo)) ∨
    ∃ todo, view.evicting = some (.pruning stream todo)

/-- The counter includes the connection. -/
def Counted (view : ConnView) : Prop :=
  (view.registered ∧ view.task ≠ .insertingStreams ∧
      view.task ≠ .countingUp) ∨
    view.task = .deregistering .countingDown ∨
    view.evicting = some .countingDown

/-- Only a removal from the `streams` map passes a pruning point. -/
theorem PruningAt.step {stream : String}
    (pruning : view.PruningAt stream)
    (moved : ViewStep view effect next) (kept : effect ≠ .prune stream) :
    next.PruningAt stream := by
  cases moved <;> grind [PruningAt]

/-- Whoever empties an entry is about to look at it. -/
theorem pruningAt_of_emptied {stream : String}
    (moved : ViewStep view (.retain stream true) next) :
    next.PruningAt stream := by
  cases moved <;> simp [PruningAt]

theorem counted_countUp
    (coherent : view.Coherent) (moved : ViewStep view .countUp next) :
    ¬ view.Counted ∧ next.Counted := by
  have stages := coherent.birthStages
  have counting := coherent.countingDown
  cases moved
  grind [Counted, BirthStages, TaskPc.Born]

theorem counted_countDown
    (coherent : view.Coherent) (moved : ViewStep view .countDown next) :
    view.Counted ∧ ¬ next.Counted := by
  have counting := coherent.countingDown
  cases moved <;> grind [Counted, CountingDown]

theorem counted_iff
    (coherent : view.Coherent) (moved : ViewStep view effect next)
    (up : effect ≠ .countUp) (down : effect ≠ .countDown) :
    next.Counted ↔ view.Counted := by
  have stages := coherent.birthStages
  cases moved <;> grind [Counted, BirthStages, TaskPc.Born]

theorem born_step
    (born : view.task.Born) (moved : ViewStep view effect next) :
    next.task.Born := by
  cases moved <;> grind [TaskPc.Born]

/-- Only a connection whose registration is over is listed anywhere. -/
theorem Coherent.born_of_listed
    (coherent : view.Coherent) {stream : String}
    (isListed : view.listed stream) :
    view.task.Born := by
  have stages := coherent.birthStages
  have owned := coherent.listedOwned stream isListed
  grind [BirthStages, ToDetach, TaskPc.Born]

theorem Coherent.not_listed_of_pushing
    (coherent : view.Coherent) {stream : String}
    (pushing : view.task = .pushing stream) :
    ¬ view.listed stream := by
  intro isListed
  have owned := coherent.listedOwned stream isListed
  have guarded := (coherent.guardHeld stream).1 (Or.inl pushing)
  have detached := coherent.detached
  grind [ToDetach, Detached]

/-- A `deregister` call has returned, so none of the maps knows the id. -/
def Absent (view : ConnView) : Prop :=
  view.task.Born ∧ ¬ view.registered ∧ view.held = none

theorem Absent.step
    (absent : view.Absent) (moved : ViewStep view effect next) :
    next.Absent := by
  cases moved <;> grind [Absent, TaskPc.Born]

/-! ## Quiet views -/

/-- No call on the connection is in progress. -/
def Quiet (view : ConnView) : Prop :=
  view.evicting = none ∧
    (view.task = .unborn ∨ view.task = .ready ∨ view.task = .gone)

theorem Coherent.listed_iff_of_quiet
    (coherent : view.Coherent) (quiet : view.Quiet) (stream : String) :
    view.listed stream ↔ stream ∈ view.held.getD [] := by
  obtain ⟨notEvicting, point⟩ := quiet
  constructor
  · intro isListed
    rcases coherent.listedOwned stream isListed with
      ⟨held, present, member⟩ | recording | pending
    · rw [present]
      exact member
    · simp [recording] at point
    · grind [ToDetach]
  · intro member
    cases present : view.held with
    | none =>
        simp [present] at member
    | some held =>
        rw [present] at member
        rcases coherent.heldListed held stream present member with
          isListed | pruning | forgetting
        · exact isListed
        · simp [pruning] at point
        · simp [forgetting] at point

theorem Quiet.not_pruningAt (quiet : view.Quiet) (stream : String) :
    ¬ view.PruningAt stream := by
  intro pruning
  grind [Quiet, PruningAt]

theorem Quiet.counted_iff_registered (quiet : view.Quiet) :
    view.Counted ↔ view.registered := by
  grind [Quiet, Counted]

end ConnView

end TurbocableServer.Connection
