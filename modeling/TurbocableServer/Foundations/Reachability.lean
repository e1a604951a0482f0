import Mathlib.Logic.Relation

/-!
# Runs of guarded transition systems

A system is given by a partial step function `step : σ → α → Option σ`: the
action names who moves and what its environment answers, and `none` means that
the move is not enabled.  A run is cut down to the steps that satisfy a guard
`allowed : σ → α → Prop`, which is where assumptions about the environment and
conditions on single steps are stated.
-/

namespace TurbocableServer.Foundations

universe u v

variable {σ : Type u} {α : Type v}

/-- `Reaches step allowed s t`: some run of `step` leads from `s` to `t`, and
every one of its steps satisfies `allowed` in the state it starts from. -/
def Reaches (step : σ → α → Option σ) (allowed : σ → α → Prop) :
    σ → σ → Prop :=
  Relation.ReflTransGen
    (fun source target =>
      ∃ action, allowed source action ∧ step source action = some target)

namespace Reaches

variable {step : σ → α → Option σ} {allowed : σ → α → Prop}

theorem refl (s : σ) : Reaches step allowed s s :=
  Relation.ReflTransGen.refl

theorem trans {r s t : σ}
    (first : Reaches step allowed r s)
    (second : Reaches step allowed s t) :
    Reaches step allowed r t :=
  Relation.ReflTransGen.trans first second

theorem tail {s t u : σ} {action : α}
    (run : Reaches step allowed s t)
    (guard : allowed t action)
    (move : step t action = some u) :
    Reaches step allowed s u :=
  Relation.ReflTransGen.tail run ⟨action, guard, move⟩

/-- A weaker guard admits every run of a stronger one. -/
theorem weaken {weaker : σ → α → Prop}
    (implied : ∀ s action, allowed s action → weaker s action)
    {s t : σ} (run : Reaches step allowed s t) :
    Reaches step weaker s t :=
  Relation.ReflTransGen.mono
    (fun _ _ ⟨action, guard, move⟩ =>
      ⟨action, implied _ action guard, move⟩) _ _ run

/-- A run goes on under a guard of its own. -/
theorem extend {r s t : σ}
    (first : Reaches step (fun _ _ => True) r s)
    (second : Reaches step allowed s t) :
    Reaches step (fun _ _ => True) r t :=
  first.trans (second.weaken (fun _ _ _ => trivial))

/-- The invariant rule: what holds at the start and is kept by every allowed
step holds at the end of every run. -/
theorem invariant {holds : σ → Prop}
    (kept :
      ∀ s action t,
        allowed s action → step s action = some t → holds s → holds t)
    {s t : σ} (run : Reaches step allowed s t)
    (initially : holds s) :
    holds t := by
  induction run with
  | refl =>
      exact initially
  | tail _ last ih =>
      obtain ⟨action, guard, move⟩ := last
      exact kept _ action _ guard move ih

end Reaches

/-- A list of actions that are allowed anywhere and all succeed is a run. -/
theorem reaches_of_foldlM
    {step : σ → α → Option σ} {allowed : σ → α → Prop} :
    ∀ {actions : List α} {s t : σ},
      (∀ u action, action ∈ actions → allowed u action) →
        actions.foldlM step s = some t → Reaches step allowed s t
  | [], s, t, _, completed => by
      obtain rfl : s = t := Option.some.inj completed
      exact Reaches.refl s
  | action :: rest, s, t, guard, completed => by
      rw [List.foldlM_cons] at completed
      obtain ⟨middle, move, remaining⟩ :=
        Option.bind_eq_some_iff.mp completed
      have firstStep : Reaches step allowed s middle :=
        (Reaches.refl s).tail (guard s action (List.mem_cons_self ..)) move
      have later :=
        reaches_of_foldlM
          (fun u other member => guard u other (List.mem_cons_of_mem _ member))
          remaining
      exact firstStep.trans later

/-- Execute a list of actions, stopping at the first one that is not enabled
or not allowed. -/
def execute (step : σ → α → Option σ) (allowed : σ → α → Prop)
    [∀ s action, Decidable (allowed s action)] :
    σ → List α → Option σ
  | s, [] => some s
  | s, action :: rest =>
      if allowed s action then
        (step s action).bind (fun t => execute step allowed t rest)
      else
        none

/-- A completed execution is a run. -/
theorem reaches_of_execute
    {step : σ → α → Option σ} {allowed : σ → α → Prop}
    [∀ s action, Decidable (allowed s action)] :
    ∀ {actions : List α} {s t : σ},
      execute step allowed s actions = some t →
        Reaches step allowed s t
  | [], s, t, completed => by
      obtain rfl : s = t := Option.some.inj completed
      exact Reaches.refl s
  | action :: rest, s, t, completed => by
      rw [execute] at completed
      split at completed
      · rename_i guard
        obtain ⟨middle, move, remaining⟩ :=
          Option.bind_eq_some_iff.mp completed
        have firstStep : Reaches step allowed s middle :=
          (Reaches.refl s).tail guard move
        exact firstStep.trans (reaches_of_execute remaining)
      · cases completed

theorem reaches_execute_get
    {step : σ → α → Option σ} {allowed : σ → α → Prop}
    [∀ s action, Decidable (allowed s action)]
    {actions : List α} {s : σ}
    (completes : (execute step allowed s actions).isSome) :
    Reaches step allowed s
      ((execute step allowed s actions).get completes) :=
  reaches_of_execute (Option.some_get completes).symm

end TurbocableServer.Foundations
