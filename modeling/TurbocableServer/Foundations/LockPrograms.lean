import Mathlib.Data.List.MinMax
import Mathlib.Logic.Hydra
import TurbocableServer.Foundations.Reachability

/-!
# Programs with read and write locks

Tasks that work on a shared state under read and write locks.  A program takes
locks one at a time and gives them back in the opposite order, as guards bound
to scopes do.  Programs that take locks in the order of a rank do not deadlock:
a task that waits for a lock of the highest rank anyone waits for can only be
held up by a task that waits for nothing.

A step is granted as soon as the lock is compatible with its holders.  Progress
is shown for the strictest policy, under which a reader also waits for every
writer that is waiting.
-/

namespace TurbocableServer.Foundations

universe u v w

inductive LockMode where
  | read
  | write
  deriving DecidableEq, Repr

/-- A program over a shared state `σ` and locks `κ`.  `act` changes the state
and goes on according to the state it found, `choose` goes on according to an
answer of the environment, `release` gives back the lock taken last. -/
inductive LockProgram (σ : Type u) (κ : Type v) where
  | done
  | acquire (lock : κ) (mode : LockMode) (next : LockProgram σ κ)
  | release (next : LockProgram σ κ)
  | act (change : σ → σ) (next : σ → LockProgram σ κ)
  | choose (next : Bool → LockProgram σ κ)

structure LockTask (σ : Type u) (κ : Type v) where
  held : List (κ × LockMode)
  program : LockProgram σ κ

structure LockSystem (σ : Type u) (κ : Type v) where
  shared : σ
  tasks : List (LockTask σ κ)

/-- A new task starts one of the calls, or a task makes its next step. -/
inductive LockAction (ι : Type w) where
  | spawn (call : ι)
  | advance (index : Nat) (answer : Bool)

namespace LockProgram

variable {σ : Type u} {κ : Type v}

def isDone : LockProgram σ κ → Bool
  | .done => true
  | _ => false

/-- The lock a program waits for. -/
def wants : LockProgram σ κ → Option (κ × LockMode)
  | .acquire lock mode _ => some (lock, mode)
  | _ => none

/-- From these locks on, the program takes only locks of a higher rank than
those it has, gives back only what it has, and keeps nothing. -/
def Ordered (rank : κ → Nat) :
    LockProgram σ κ → List (κ × LockMode) → Prop
  | .done, held => held = []
  | .acquire lock mode next, held =>
      (∀ entry, entry ∈ held → rank entry.1 < rank lock) ∧
        Ordered rank next ((lock, mode) :: held)
  | .release next, held =>
      ∃ entry rest, held = entry :: rest ∧ Ordered rank next rest
  | .act _ next, held => ∀ state, Ordered rank (next state) held
  | .choose next, held => ∀ answer, Ordered rank (next answer) held

/-- The program run alone; the answers of the environment come from a list, and
count as `true` when it has run out. -/
def eval : LockProgram σ κ → List Bool → σ → σ
  | .done, _, state => state
  | .acquire _ _ next, answers, state => next.eval answers state
  | .release next, answers, state => next.eval answers state
  | .act change next, answers, state =>
      (next state).eval answers (change state)
  | .choose next, answers, state =>
      (next (answers.headD true)).eval answers.tail state

/-- What is left of a program after one of its steps. -/
inductive Continues : LockProgram σ κ → LockProgram σ κ → Prop
  | acquire (lock : κ) (mode : LockMode) (next : LockProgram σ κ) :
      Continues next (.acquire lock mode next)
  | release (next : LockProgram σ κ) : Continues next (.release next)
  | act (change : σ → σ) (next : σ → LockProgram σ κ) (state : σ) :
      Continues (next state) (.act change next)
  | choose (next : Bool → LockProgram σ κ) (answer : Bool) :
      Continues (next answer) (.choose next)

theorem wellFounded_continues :
    WellFounded (Continues : LockProgram σ κ → LockProgram σ κ → Prop) := by
  refine ⟨fun program => ?_⟩
  induction program with
  | done => exact ⟨_, fun _ continues => by cases continues⟩
  | acquire lock mode next ih | release next ih =>
      refine ⟨_, fun left continues => ?_⟩
      cases continues
      exact ih
  | act change next ih =>
      refine ⟨_, fun left continues => ?_⟩
      cases continues with
      | act _ _ state => exact ih state
  | choose next ih =>
      refine ⟨_, fun left continues => ?_⟩
      cases continues with
      | choose _ answer => exact ih answer

/-- One access under one lock. -/
def access (lock : κ) (mode : LockMode) (change : σ → σ)
    (next : σ → LockProgram σ κ) : LockProgram σ κ :=
  .acquire lock mode (.act change (fun state => .release (next state)))

theorem ordered_access {rank : κ → Nat} {lock : κ} {mode : LockMode}
    {change : σ → σ} {next : σ → LockProgram σ κ}
    {held : List (κ × LockMode)}
    (higher : ∀ entry, entry ∈ held → rank entry.1 < rank lock)
    (ordered : ∀ state, (next state).Ordered rank held) :
    (access lock mode change next).Ordered rank held :=
  ⟨higher, fun state => ⟨_, held, rfl, ordered state⟩⟩

@[simp]
theorem eval_access (lock : κ) (mode : LockMode) (change : σ → σ)
    (next : σ → LockProgram σ κ) (answers : List Bool) (state : σ) :
    (access lock mode change next).eval answers state =
      (next state).eval answers (change state) :=
  rfl

end LockProgram

namespace LockSystem

variable {σ : Type u} {κ : Type v} {ι : Type w}

def start (state : σ) : LockSystem σ κ where
  shared := state
  tasks := []

/-- The lock is compatible with everything the tasks hold. -/
def Free (tasks : List (LockTask σ κ)) (lock : κ) (mode : LockMode) : Prop :=
  ∀ task, task ∈ tasks → ∀ entry, entry ∈ task.held → entry.1 = lock →
    mode = .read ∧ entry.2 = .read

instance [DecidableEq κ] (tasks : List (LockTask σ κ)) (lock : κ)
    (mode : LockMode) : Decidable (Free tasks lock mode) :=
  inferInstanceAs (Decidable (∀ task, task ∈ tasks → _))

/-- One step of a task among `tasks`. -/
def advance [DecidableEq κ] (tasks : List (LockTask σ κ)) (answer : Bool) (state : σ)
    (task : LockTask σ κ) : Option (σ × LockTask σ κ) :=
  match task.program with
  | .done => none
  | .acquire lock mode next =>
      if Free tasks lock mode then
        some (state, ⟨(lock, mode) :: task.held, next⟩)
      else
        none
  | .release next =>
      match task.held with
      | [] => none
      | _ :: rest => some (state, ⟨rest, next⟩)
  | .act change next => some (change state, ⟨task.held, next state⟩)
  | .choose next => some (state, ⟨task.held, next answer⟩)

def step [DecidableEq κ] (code : ι → LockProgram σ κ) (sys : LockSystem σ κ) :
    LockAction ι → Option (LockSystem σ κ)
  | .spawn call => some { sys with tasks := sys.tasks ++ [⟨[], code call⟩] }
  | .advance index answer =>
      match sys.tasks[index]? with
      | none => none
      | some task =>
          (advance sys.tasks answer sys.shared task).map
            (fun (state, moved) =>
              { shared := state, tasks := sys.tasks.set index moved })

/-- Under every policy the task can make its next step: it does not wait for a
lock, or the lock is free, and if it wants to read, nobody waits to write. -/
def CanStep (sys : LockSystem σ κ) (task : LockTask σ κ) : Prop :=
  task.program.isDone = false ∧
    ∀ lock mode, task.program.wants = some (lock, mode) →
      Free sys.tasks lock mode ∧
        (mode = .read →
          ∀ other, other ∈ sys.tasks →
            other.program.wants ≠ some (lock, .write))

/-! ## Steps -/

variable {rank : κ → Nat} {code : ι → LockProgram σ κ}
variable {sys next : LockSystem σ κ} {action : LockAction ι}

/-- A step starts a task that holds nothing, or moves one task. -/
theorem step_cases [DecidableEq κ]
    (stepped : LockSystem.step code sys action = some next) :
    (∃ call, action = .spawn call ∧
      next = { sys with tasks := sys.tasks ++ [⟨[], code call⟩] }) ∨
    ∃ index answer task state moved,
      action = .advance index answer ∧ sys.tasks[index]? = some task ∧
        advance sys.tasks answer sys.shared task = some (state, moved) ∧
        next = { shared := state, tasks := sys.tasks.set index moved } := by
  cases action with
  | spawn call =>
      exact Or.inl ⟨call, rfl, (Option.some.inj stepped).symm⟩
  | advance index answer =>
      simp only [LockSystem.step] at stepped
      split at stepped
      · cases stepped
      · rename_i task present
        obtain ⟨⟨state, moved⟩, advanced, isNext⟩ :=
          Option.map_eq_some_iff.mp stepped
        exact Or.inr ⟨index, answer, task, state, moved, rfl, present,
          advanced, isNext.symm⟩

/-- What one step of a task can be. -/
inductive TaskStep (tasks : List (LockTask σ κ)) (answer : Bool) (state : σ) :
    LockTask σ κ → σ → LockTask σ κ → Prop
  | acquire {held : List (κ × LockMode)} {lock : κ} {mode : LockMode}
      {next : LockProgram σ κ} (isFree : Free tasks lock mode) :
      TaskStep tasks answer state ⟨held, .acquire lock mode next⟩
        state ⟨(lock, mode) :: held, next⟩
  | release {entry : κ × LockMode} {held : List (κ × LockMode)}
      {next : LockProgram σ κ} :
      TaskStep tasks answer state ⟨entry :: held, .release next⟩
        state ⟨held, next⟩
  | act {held : List (κ × LockMode)} {change : σ → σ}
      {next : σ → LockProgram σ κ} :
      TaskStep tasks answer state ⟨held, .act change next⟩
        (change state) ⟨held, next state⟩
  | choose {held : List (κ × LockMode)} {next : Bool → LockProgram σ κ} :
      TaskStep tasks answer state ⟨held, .choose next⟩
        state ⟨held, next answer⟩

section Advance

variable [DecidableEq κ] {tasks : List (LockTask σ κ)} {answer : Bool}
variable {state after : σ} {task moved : LockTask σ κ}

theorem taskStep_of_advance
    (advanced : advance tasks answer state task = some (after, moved)) :
    TaskStep tasks answer state task after moved := by
  obtain ⟨held, program⟩ := task
  cases program with
  | done => cases advanced
  | acquire lock mode next =>
      simp only [advance] at advanced
      split at advanced
      · rename_i isFree
        cases advanced
        exact .acquire isFree
      · cases advanced
  | release next =>
      cases held with
      | nil => cases advanced
      | cons entry rest =>
          cases advanced
          exact .release
  | act change next =>
      cases advanced
      exact .act
  | choose next =>
      cases advanced
      exact .choose

/-- A move keeps the locks, takes one that is free, or gives back the last. -/
theorem advance_held
    (advanced : advance tasks answer state task = some (after, moved)) :
    moved.held = task.held ∨
      (∃ lock mode, moved.held = (lock, mode) :: task.held ∧
        Free tasks lock mode) ∨
      ∃ entry, task.held = entry :: moved.held := by
  cases taskStep_of_advance advanced with
  | acquire isFree => exact Or.inr (Or.inl ⟨_, _, rfl, isFree⟩)
  | release => exact Or.inr (Or.inr ⟨_, rfl⟩)
  | act => exact Or.inl rfl
  | choose => exact Or.inl rfl

theorem continues_of_advance
    (advanced : advance tasks answer state task = some (after, moved)) :
    LockProgram.Continues moved.program task.program := by
  cases taskStep_of_advance advanced with
  | acquire => exact .acquire _ _ _
  | release => exact .release _
  | act => exact .act _ _ _
  | choose => exact .choose _ _

theorem ordered_advance (ordered : task.program.Ordered rank task.held)
    (stepped : advance tasks answer state task = some (after, moved)) :
    moved.program.Ordered rank moved.held := by
  cases taskStep_of_advance stepped with
  | acquire => exact ordered.2
  | release =>
      obtain ⟨_, _, same, later⟩ := ordered
      cases same
      exact later
  | act => exact ordered state
  | choose => exact ordered answer

end Advance

theorem getElem?_set_cases {α : Type u} {items : List α} {index place : Nat}
    {moved found : α}
    (isFound : (items.set index moved)[place]? = some found) :
    (place = index ∧ found = moved) ∨
      (place ≠ index ∧ items[place]? = some found) := by
  by_cases same : place = index
  · subst same
    have inside : place < items.length := by
      have bound := (List.getElem?_eq_some_iff.mp isFound).1
      rw [List.length_set] at bound
      exact bound
    rw [List.getElem?_set_self inside] at isFound
    exact Or.inl ⟨rfl, (Option.some.inj isFound).symm⟩
  · rw [List.getElem?_set_ne (Ne.symm same)] at isFound
    exact Or.inr ⟨same, isFound⟩

/-! ## Tasks stay ordered -/

/-- Every task takes its locks in order. -/
def Ordered (rank : κ → Nat) (sys : LockSystem σ κ) : Prop :=
  ∀ task, task ∈ sys.tasks → task.program.Ordered rank task.held

theorem Ordered.step [DecidableEq κ]
    (inOrder : ∀ call, (code call).Ordered rank [])
    (ordered : sys.Ordered rank)
    (stepped : LockSystem.step code sys action = some next) :
    next.Ordered rank := by
  rcases step_cases stepped with
    ⟨call, -, rfl⟩ | ⟨index, answer, task, state, moved, -, present, advanced,
      rfl⟩
  · intro task member
    rcases List.mem_append.mp member with before | isNew
    · exact ordered task before
    · rw [List.mem_singleton.mp isNew]
      exact inOrder call
  · intro other member
    rcases List.mem_or_eq_of_mem_set member with before | rfl
    · exact ordered other before
    · exact ordered_advance
        (ordered task (List.mem_of_getElem? present)) advanced

/-! ## Exclusion -/

/-- Two tasks hold one lock only if both hold it for reading. -/
def Exclusive (sys : LockSystem σ κ) : Prop :=
  ∀ (left right : Nat) (task other : LockTask σ κ), left ≠ right →
    sys.tasks[left]? = some task → sys.tasks[right]? = some other →
      ∀ lock mode otherMode, (lock, mode) ∈ task.held →
        (lock, otherMode) ∈ other.held → mode = .read ∧ otherMode = .read

theorem exclusive_start (state : σ) :
    (start state : LockSystem σ κ).Exclusive := by
  intro left right task other _ present
  cases present

/-- What a task holds after its move agrees with what the others hold. -/
theorem Exclusive.moved [DecidableEq κ] (exclusive : sys.Exclusive)
    {index : Nat} {answer : Bool} {task moved : LockTask σ κ} {state : σ}
    (present : sys.tasks[index]? = some task)
    (advanced :
      advance sys.tasks answer sys.shared task = some (state, moved))
    {right : Nat} {other : LockTask σ κ} (apart : index ≠ right)
    (isOther : sys.tasks[right]? = some other) {lock : κ}
    {mode otherMode : LockMode} (holds : (lock, mode) ∈ moved.held)
    (otherHolds : (lock, otherMode) ∈ other.held) :
    mode = .read ∧ otherMode = .read := by
  have before : (lock, mode) ∈ task.held → mode = .read ∧ otherMode = .read :=
    fun held =>
      exclusive index right task other apart present isOther lock mode
        otherMode held otherHolds
  rcases advance_held advanced with
    same | ⟨taken, takenMode, isTaken, isFree⟩ | ⟨entry, isRest⟩
  · exact before (same ▸ holds)
  · rw [isTaken] at holds
    rcases List.mem_cons.mp holds with isNew | held
    · cases isNew
      exact isFree other (List.mem_of_getElem? isOther) (lock, otherMode)
        otherHolds rfl
    · exact before held
  · apply before
    rw [isRest]
    exact List.mem_cons_of_mem entry holds

theorem Exclusive.step [DecidableEq κ] (exclusive : sys.Exclusive)
    (stepped : LockSystem.step code sys action = some next) :
    next.Exclusive := by
  rcases step_cases stepped with
    ⟨call, -, rfl⟩ | ⟨index, answer, task, state, moved, -, present, advanced,
      rfl⟩
  · have older : ∀ {place : Nat} {task : LockTask σ κ} {entry : κ × LockMode},
        (sys.tasks ++ [⟨[], code call⟩])[place]? = some task →
          entry ∈ task.held → sys.tasks[place]? = some task := by
      intro place task entry isTask holds
      by_cases inside : place < sys.tasks.length
      · rw [List.getElem?_append_left inside] at isTask
        exact isTask
      · rw [List.getElem?_append_right (Nat.le_of_not_lt inside)] at isTask
        have isNew := List.mem_of_getElem? isTask
        rw [List.mem_singleton.mp isNew] at holds
        cases holds
    intro left right task other apart isLeft isRight lock mode otherMode holds
      otherHolds
    exact exclusive left right task other apart (older isLeft holds)
      (older isRight otherHolds) lock mode otherMode holds otherHolds
  · intro left right first second apart isLeft isRight lock mode otherMode
      holds otherHolds
    rcases getElem?_set_cases isLeft with ⟨rfl, rfl⟩ | ⟨-, wasLeft⟩
    · rcases getElem?_set_cases isRight with ⟨same, -⟩ | ⟨-, wasRight⟩
      · exact absurd same.symm apart
      · exact exclusive.moved present advanced apart wasRight holds otherHolds
    · rcases getElem?_set_cases isRight with ⟨rfl, rfl⟩ | ⟨-, wasRight⟩
      · exact (exclusive.moved present advanced (Ne.symm apart) wasLeft
          otherHolds holds).symm
      · exact exclusive left right first second apart wasLeft wasRight lock
          mode otherMode holds otherHolds

/-! ## Invariants under a lock -/

/-- The task holds the lock for writing. -/
def Writes (lock : κ) (task : LockTask σ κ) : Prop :=
  (lock, .write) ∈ task.held

theorem Exclusive.not_writes (exclusive : sys.Exclusive) {lock : κ}
    {left right : Nat} {task other : LockTask σ κ} (apart : left ≠ right)
    (isLeft : sys.tasks[left]? = some task)
    (isRight : sys.tasks[right]? = some other) (writes : Writes lock task) :
    ¬ Writes lock other := by
  intro otherWrites
  have modes := exclusive left right task other apart isLeft isRight lock
    .write .write writes otherWrites
  cases modes.1

/-- The rule of a lock that protects a part of the state.  `free` is what holds
of that part while nobody has the lock for writing, `inside` is what the task
that has it knows, and `outside` is the shape of the other tasks. -/
structure Protects [DecidableEq κ] (code : ι → LockProgram σ κ) (lock : κ)
    (free : σ → Prop) (outside : LockTask σ κ → Prop)
    (inside : σ → LockTask σ κ → Prop) : Prop where
  spawned : ∀ call, outside ⟨[], code call⟩
  /-- A task without the lock disturbs neither the state nor the writer. -/
  passes :
    ∀ {tasks : List (LockTask σ κ)} {answer : Bool} {state after : σ}
      {task moved : LockTask σ κ}, outside task → ¬ Writes lock task →
      advance tasks answer state task = some (after, moved) →
      ¬ Writes lock moved →
        outside moved ∧ (free state → free after) ∧
          ∀ other, inside state other → inside after other
  enters :
    ∀ {tasks : List (LockTask σ κ)} {answer : Bool} {state after : σ}
      {task moved : LockTask σ κ}, outside task → ¬ Writes lock task →
      advance tasks answer state task = some (after, moved) →
      Writes lock moved → free state → inside after moved
  works :
    ∀ {tasks : List (LockTask σ κ)} {answer : Bool} {state after : σ}
      {task moved : LockTask σ κ}, inside state task →
      advance tasks answer state task = some (after, moved) →
      Writes lock moved → inside after moved
  leaves :
    ∀ {tasks : List (LockTask σ κ)} {answer : Bool} {state after : σ}
      {task moved : LockTask σ κ}, inside state task →
      advance tasks answer state task = some (after, moved) →
      ¬ Writes lock moved → outside moved ∧ free after

/-- The invariant the rule gives. -/
structure Guarded (lock : κ) (free : σ → Prop)
    (outside : LockTask σ κ → Prop) (inside : σ → LockTask σ κ → Prop)
    (sys : LockSystem σ κ) : Prop where
  exclusive : sys.Exclusive
  outsiders : ∀ task ∈ sys.tasks, ¬ Writes lock task → outside task
  insider : ∀ task ∈ sys.tasks, Writes lock task → inside sys.shared task
  unlocked : (∀ task ∈ sys.tasks, ¬ Writes lock task) → free sys.shared

section Protects

variable {lock : κ} {free : σ → Prop}
variable {outside : LockTask σ κ → Prop} {inside : σ → LockTask σ κ → Prop}

theorem guarded_start {state : σ} (initially : free state) :
    (start state : LockSystem σ κ).Guarded lock free outside inside where
  exclusive := exclusive_start state
  outsiders := fun _ member => by cases member
  insider := fun _ member => by cases member
  unlocked := fun _ => initially

/-- The invariant after a move, from what the moved task and the others are. -/
theorem Guarded.of_move (guarded : sys.Guarded lock free outside inside)
    {index : Nat} {moved : LockTask σ κ} {state : σ}
    (inRange : index < sys.tasks.length)
    (exclusive : ({ shared := state, tasks := sys.tasks.set index moved } :
      LockSystem σ κ).Exclusive)
    (movedOut : ¬ Writes lock moved → outside moved)
    (movedIn : Writes lock moved → inside state moved)
    (othersIn : ∀ place other, place ≠ index →
      sys.tasks[place]? = some other → Writes lock other →
        inside state other)
    (nowFree : ¬ Writes lock moved →
      (∀ place other, place ≠ index → sys.tasks[place]? = some other →
        ¬ Writes lock other) → free state) :
    ({ shared := state, tasks := sys.tasks.set index moved } :
      LockSystem σ κ).Guarded lock free outside inside := by
  have others : ∀ {other : LockTask σ κ}, other ∈ sys.tasks.set index moved →
      other = moved ∨
        ∃ place, place ≠ index ∧ sys.tasks[place]? = some other := by
    intro other isOther
    obtain ⟨place, isPlace⟩ := List.mem_iff_getElem?.mp isOther
    rcases getElem?_set_cases isPlace with ⟨-, same⟩ | ⟨apart, wasThere⟩
    · exact Or.inl same
    · exact Or.inr ⟨place, apart, wasThere⟩
  refine ⟨exclusive, ?_, ?_, ?_⟩
  · intro other isOther notWriting
    rcases others isOther with rfl | ⟨place, apart, wasThere⟩
    · exact movedOut notWriting
    · exact guarded.outsiders other (List.mem_of_getElem? wasThere) notWriting
  · intro other isOther writes
    rcases others isOther with rfl | ⟨place, apart, wasThere⟩
    · exact movedIn writes
    · exact othersIn place other apart wasThere writes
  · intro nobody
    refine nowFree (nobody moved (List.mem_set inRange moved)) ?_
    intro place other apart wasThere
    apply nobody other
    apply List.mem_of_getElem?
    rw [List.getElem?_set_ne (Ne.symm apart)]
    exact wasThere

/-- Nobody writes if the mover does not and the others do not. -/
theorem forall_not_writes {index : Nat} {task : LockTask σ κ}
    (present : sys.tasks[index]? = some task)
    (notWriting : ¬ Writes lock task)
    (othersOut : ∀ place other, place ≠ index →
      sys.tasks[place]? = some other → ¬ Writes lock other) :
    ∀ other, other ∈ sys.tasks → ¬ Writes lock other := by
  intro other isOther
  obtain ⟨place, isPlace⟩ := List.mem_iff_getElem?.mp isOther
  by_cases same : place = index
  · subst same
    rw [present] at isPlace
    cases isPlace
    exact notWriting
  · exact othersOut place other same isPlace

variable [DecidableEq κ]

theorem Protects.spawn (protects : Protects code lock free outside inside)
    (guarded : sys.Guarded lock free outside inside) (call : ι)
    (exclusive : ({ sys with tasks := sys.tasks ++ [⟨[], code call⟩] } :
      LockSystem σ κ).Exclusive) :
    ({ sys with tasks := sys.tasks ++ [⟨[], code call⟩] } :
      LockSystem σ κ).Guarded lock free outside inside where
  exclusive := exclusive
  outsiders := by
    intro task member notWriting
    rcases List.mem_append.mp member with before | isNew
    · exact guarded.outsiders task before notWriting
    · rw [List.mem_singleton.mp isNew]
      exact protects.spawned call
  insider := by
    intro task member writes
    rcases List.mem_append.mp member with before | isNew
    · exact guarded.insider task before writes
    · rw [List.mem_singleton.mp isNew] at writes
      cases writes
  unlocked := by
    intro nobody
    apply guarded.unlocked
    intro task member
    exact nobody task (List.mem_append_left _ member)

theorem Protects.move (protects : Protects code lock free outside inside)
    (guarded : sys.Guarded lock free outside inside) {index : Nat}
    {answer : Bool} {task moved : LockTask σ κ} {state : σ}
    (present : sys.tasks[index]? = some task)
    (advanced :
      advance sys.tasks answer sys.shared task = some (state, moved))
    (exclusive : ({ shared := state, tasks := sys.tasks.set index moved } :
      LockSystem σ κ).Exclusive) :
    ({ shared := state, tasks := sys.tasks.set index moved } :
      LockSystem σ κ).Guarded lock free outside inside := by
  have member := List.mem_of_getElem? present
  obtain ⟨inRange, -⟩ := List.getElem?_eq_some_iff.mp present
  apply guarded.of_move inRange exclusive
  · intro notWriting
    by_cases wrote : Writes lock task
    · have knows := guarded.insider task member wrote
      exact (protects.leaves knows advanced notWriting).1
    · have wasOutside := guarded.outsiders task member wrote
      exact (protects.passes wasOutside wrote advanced notWriting).1
  · intro writes
    by_cases wrote : Writes lock task
    · exact protects.works (guarded.insider task member wrote) advanced writes
    · -- whoever takes the lock finds it free, so the state was unlocked
      have isMoved : (sys.tasks.set index moved)[index]? = some moved :=
        List.getElem?_set_self inRange
      have othersOut : ∀ place other, place ≠ index →
          sys.tasks[place]? = some other → ¬ Writes lock other := by
        intro place other apart wasThere
        refine exclusive.not_writes (Ne.symm apart) isMoved ?_ writes
        rw [List.getElem?_set_ne (Ne.symm apart)]
        exact wasThere
      have wasFree : free sys.shared :=
        guarded.unlocked (forall_not_writes present wrote othersOut)
      exact protects.enters (guarded.outsiders task member wrote) wrote
        advanced writes wasFree
  · intro place other apart wasThere otherWrites
    by_cases wrote : Writes lock task
    · exact absurd otherWrites
        (guarded.exclusive.not_writes (Ne.symm apart) present wasThere wrote)
    · by_cases writes : Writes lock moved
      · refine absurd otherWrites (exclusive.not_writes (Ne.symm apart)
          (List.getElem?_set_self inRange) ?_ writes)
        rw [List.getElem?_set_ne (Ne.symm apart)]
        exact wasThere
      · have keeps := protects.passes (guarded.outsiders task member wrote)
          wrote advanced writes
        exact keeps.2.2 other (guarded.insider other
          (List.mem_of_getElem? wasThere) otherWrites)
  · intro notWriting othersOut
    by_cases wrote : Writes lock task
    · have knows := guarded.insider task member wrote
      exact (protects.leaves knows advanced notWriting).2
    · have keeps := protects.passes (guarded.outsiders task member wrote)
        wrote advanced notWriting
      apply keeps.2.1
      exact guarded.unlocked (forall_not_writes present wrote othersOut)

theorem Protects.step (protects : Protects code lock free outside inside)
    (guarded : sys.Guarded lock free outside inside)
    (stepped : LockSystem.step code sys action = some next) :
    next.Guarded lock free outside inside := by
  have exclusive := guarded.exclusive.step stepped
  rcases step_cases stepped with
    ⟨call, -, rfl⟩ | ⟨index, answer, task, state, moved, -, present, advanced,
      rfl⟩
  · exact protects.spawn guarded call exclusive
  · exact protects.move guarded present advanced exclusive

theorem Protects.of_reaches
    (protects : Protects code lock free outside inside)
    {allowed : LockSystem σ κ → LockAction ι → Prop}
    (guarded : sys.Guarded lock free outside inside)
    (run : Reaches (LockSystem.step code) allowed sys next) :
    next.Guarded lock free outside inside :=
  run.invariant (fun _ _ _ _ stepped kept => protects.step kept stepped)
    guarded

end Protects

/-! ## Progress -/

/-- No unfinished task waits for a lock of a higher rank. -/
def Topmost (rank : κ → Nat) (sys : LockSystem σ κ) (lock : κ) : Prop :=
  ∀ task, task ∈ sys.tasks → ∀ wanted mode,
    task.program.wants = some (wanted, mode) → rank wanted ≤ rank lock

/-- A task that holds a topmost lock waits for nothing. -/
theorem Ordered.canStep_of_holds (ordered : sys.Ordered rank) {lock : κ}
    (topmost : sys.Topmost rank lock) {holder : LockTask σ κ}
    (member : holder ∈ sys.tasks) {mode : LockMode}
    (holds : (lock, mode) ∈ holder.held) : sys.CanStep holder := by
  have inOrder := ordered holder member
  have notDone : holder.program.isDone = false := by
    cases isProgram : holder.program with
    | done =>
        rw [isProgram] at inOrder
        have noLocks : holder.held = [] := inOrder
        rw [noLocks] at holds
        cases holds
    | _ => rfl
  refine ⟨notDone, fun wanted wantedMode isWanted => ?_⟩
  have bound := topmost holder member wanted wantedMode isWanted
  cases isProgram : holder.program with
  | acquire lock' mode' next =>
      rw [isProgram] at isWanted inOrder
      cases isWanted
      have higher := inOrder.1 _ holds
      exact absurd higher (Nat.not_lt.mpr bound)
  | _ =>
      rw [isProgram] at isWanted
      cases isWanted

/-- Somebody can make a step if somebody waits for a topmost lock: the waiting
task, a writer it gives way to, or the task that holds the lock. -/
theorem Ordered.canStep_of_topmost (ordered : sys.Ordered rank) {lock : κ}
    {mode : LockMode} (topmost : sys.Topmost rank lock)
    {task : LockTask σ κ} (member : task ∈ sys.tasks)
    (isWanted : task.program.wants = some (lock, mode)) :
    ∃ able, able ∈ sys.tasks ∧ sys.CanStep able := by
  have notDone :
      ∀ {other : LockTask σ κ} {wanted : κ × LockMode},
        other.program.wants = some wanted →
          other.program.isDone = false := by
    intro other wanted waits
    cases isProgram : other.program with
    | done =>
        rw [isProgram] at waits
        cases waits
    | _ => rfl
  -- A lock that is not free has a holder.
  have heldUp :
      ∀ {wantedMode : LockMode}, ¬ Free sys.tasks lock wantedMode →
        ∃ able, able ∈ sys.tasks ∧ sys.CanStep able := by
    intro wantedMode notFree
    simp only [Free, not_forall] at notFree
    obtain ⟨holder, inTasks, ⟨held, heldMode⟩, holds, rfl, -⟩ := notFree
    exact ⟨holder, inTasks, ordered.canStep_of_holds topmost inTasks holds⟩
  by_cases writer :
      ∃ other, other ∈ sys.tasks ∧ other.program.wants = some (lock, .write)
  · obtain ⟨other, inTasks, wantsWrite⟩ := writer
    by_cases isFree : Free sys.tasks lock .write
    · refine ⟨other, inTasks, notDone wantsWrite, fun wanted _ isOther => ?_⟩
      rw [wantsWrite] at isOther
      cases isOther
      exact ⟨isFree, fun isRead => by cases isRead⟩
    · exact heldUp isFree
  · by_cases isFree : Free sys.tasks lock mode
    · refine ⟨task, member, notDone isWanted, fun wanted _ isOther => ?_⟩
      rw [isWanted] at isOther
      cases isOther
      exact ⟨isFree, fun _ other inTasks wantsWrite =>
        writer ⟨other, inTasks, wantsWrite⟩⟩
    · exact heldUp isFree

/-- Some lock that a task waits for is topmost, if any task waits. -/
theorem exists_topmost (rank : κ → Nat) {task : LockTask σ κ}
    {wanted : κ × LockMode}
    (member : task ∈ sys.tasks) (waits : task.program.wants = some wanted) :
    ∃ top lock mode,
      top ∈ sys.tasks ∧ top.program.wants = some (lock, mode) ∧
        sys.Topmost rank lock := by
  let locks := sys.tasks.filterMap (fun task => task.program.wants)
  have inLocks : wanted ∈ locks :=
    List.mem_filterMap.mpr ⟨task, member, waits⟩
  obtain ⟨⟨lock, mode⟩, isMax⟩ :
      ∃ top, top ∈ List.argmax (fun entry => rank entry.1) locks := by
    cases highest : List.argmax (fun entry => rank entry.1) locks with
    | none =>
        rw [List.argmax_eq_none.mp highest] at inLocks
        cases inLocks
    | some top => exact ⟨top, rfl⟩
  obtain ⟨top, topMember, topWants⟩ :=
    List.mem_filterMap.mp (List.argmax_mem isMax)
  refine ⟨top, lock, mode, topMember, topWants, ?_⟩
  intro other inTasks otherLock otherMode otherWants
  have inLocks : (otherLock, otherMode) ∈ locks :=
    List.mem_filterMap.mpr ⟨other, inTasks, otherWants⟩
  exact List.le_of_mem_argmax (f := fun entry => rank entry.1) inLocks isMax

/-- Where all tasks are ordered and one is not at its end, one can make a
step. -/
theorem Ordered.exists_canStep (ordered : sys.Ordered rank)
    {task : LockTask σ κ} (member : task ∈ sys.tasks)
    (notDone : task.program.isDone = false) :
    ∃ able, able ∈ sys.tasks ∧ sys.CanStep able := by
  cases waits : task.program.wants with
  | none =>
      refine ⟨task, member, notDone, fun lock mode isWanted => ?_⟩
      rw [waits] at isWanted
      cases isWanted
  | some wanted =>
      obtain ⟨top, lock, mode, topMember, topWants, topmost⟩ :=
        exists_topmost rank member waits
      exact ordered.canStep_of_topmost topmost topMember topWants

/-- A task that can make its next step under the strictest policy makes it. -/
theorem CanStep.advance [DecidableEq κ] {task : LockTask σ κ}
    (able : sys.CanStep task)
    (ordered : task.program.Ordered rank task.held) (answer : Bool) :
    (LockSystem.advance sys.tasks answer sys.shared task).isSome := by
  obtain ⟨notDone, granted⟩ := able
  obtain ⟨held, program⟩ := task
  cases program with
  | done => cases notDone
  | acquire lock mode next =>
      have isFree := (granted lock mode rfl).1
      simp [LockSystem.advance, isFree]
  | release next =>
      obtain ⟨entry, rest, rfl, -⟩ := ordered
      rfl
  | act change next => rfl
  | choose next => rfl

section Runs

variable [DecidableEq κ]
variable {allowed : LockSystem σ κ → LockAction ι → Prop} {state : σ}

theorem ordered_of_reaches (inOrder : ∀ call, (code call).Ordered rank [])
    (run : Reaches (step code) allowed (start state) sys) :
    sys.Ordered rank :=
  run.invariant (fun _ _ _ _ stepped ordered => ordered.step inOrder stepped)
    (fun _ member => by cases member)

theorem Ordered.exists_step (code : ι → LockProgram σ κ)
    (ordered : sys.Ordered rank)
    {task : LockTask σ κ} (member : task ∈ sys.tasks)
    (notDone : task.program.isDone = false) :
    ∃ index able,
      sys.tasks[index]? = some able ∧ sys.CanStep able ∧
        ∀ answer,
          (LockSystem.step code sys (.advance index answer)).isSome := by
  obtain ⟨able, inTasks, canStep⟩ := ordered.exists_canStep member notDone
  obtain ⟨index, present⟩ := List.mem_iff_getElem?.mp inTasks
  refine ⟨index, able, present, canStep, fun answer => ?_⟩
  simp only [LockSystem.step, present, Option.isSome_map]
  exact canStep.advance (ordered able inTasks) answer

/-- Calls that take their locks in order never bring the system to a
standstill. -/
theorem progress (inOrder : ∀ call, (code call).Ordered rank [])
    (run : Reaches (step code) allowed (start state) sys)
    {task : LockTask σ κ} (member : task ∈ sys.tasks)
    (notDone : task.program.isDone = false) :
    ∃ index able,
      sys.tasks[index]? = some able ∧ sys.CanStep able ∧
        ∀ answer, (step code sys (.advance index answer)).isSome :=
  Ordered.exists_step code (ordered_of_reaches inOrder run) member notDone

/-! ## Termination -/

def programs (sys : LockSystem σ κ) : Multiset (LockProgram σ κ) :=
  (sys.tasks.map LockTask.program : List (LockProgram σ κ))

/-- A move puts what is left of one program in its place. -/
theorem programs_move {index : Nat} {answer : Bool}
    {task moved : LockTask σ κ} {after : σ}
    (present : sys.tasks[index]? = some task)
    (advanced :
      advance sys.tasks answer sys.shared task = some (after, moved)) :
    Relation.CutExpand LockProgram.Continues
      (programs ⟨after, sys.tasks.set index moved⟩) sys.programs := by
  refine ⟨{moved.program}, task.program, ?_, ?_⟩
  · intro program isMoved
    rw [Multiset.mem_singleton.mp isMoved]
    exact continues_of_advance advanced
  · obtain ⟨inRange, isTask⟩ := List.getElem?_eq_some_iff.mp present
    have placed := List.set_perm_cons_eraseIdx inRange moved
    have taken := List.getElem_cons_eraseIdx_perm inRange
    rw [isTask] at taken
    have before := Multiset.coe_eq_coe.mpr (taken.map LockTask.program)
    have after := Multiset.coe_eq_coe.mpr (placed.map LockTask.program)
    rw [programs, programs, after, ← before, List.map_cons, List.map_cons,
      ← Multiset.cons_coe, ← Multiset.cons_coe, Multiset.add_comm,
      Multiset.add_comm _ {moved.program}, Multiset.singleton_add,
      Multiset.singleton_add, Multiset.cons_swap]

/-- From everywhere the tasks can run to their ends. -/
theorem Ordered.exists_finished (ordered : sys.Ordered rank)
    (inOrder : ∀ call, (code call).Ordered rank [])
    (advances : ∀ sys index answer, allowed sys (.advance index answer)) :
    ∃ finished, Reaches (LockSystem.step code) allowed sys finished ∧
      ∀ task, task ∈ finished.tasks → task.program.isDone = true := by
  -- what is left of the programs gets smaller with every move
  induction isLeft : sys.programs using
    (LockProgram.wellFounded_continues.cutExpand).induction generalizing sys with
  | h left ih =>
      by_cases finished :
          ∀ task, task ∈ sys.tasks → task.program.isDone = true
      · exact ⟨sys, Reaches.refl sys, finished⟩
      · obtain ⟨task, member, notDone⟩ :
            ∃ task, task ∈ sys.tasks ∧ task.program.isDone = false := by
          simpa using finished
        obtain ⟨index, able, present, -, steps⟩ :=
          ordered.exists_step code member notDone
        obtain ⟨next, stepped⟩ := Option.isSome_iff_exists.mp (steps true)
        have nextOrdered := ordered.step inOrder stepped
        rcases step_cases stepped with
          ⟨call, isSpawn, -⟩ |
            ⟨place, answer, mover, after, moved, -, isMover, advanced, rfl⟩
        · cases isSpawn
        · obtain ⟨last, run, done⟩ := ih _
            (isLeft ▸ programs_move isMover advanced) nextOrdered rfl
          have first := (Reaches.refl sys).tail
            (advances sys index true) stepped
          exact ⟨last, first.trans run, done⟩

end Runs

end LockSystem

end TurbocableServer.Foundations
