import TurbocableServer.Connection.RegistryFeeds
import TurbocableServer.Foundations.SwitchLog

/-!
# Membership and the calls of a connection

As long as no `deregister` call has taken the entry of a connection, its own
`subscribe` and `unsubscribe` calls are all that changes which streams list it.
-/

namespace TurbocableServer.Connection

open Foundations

/-- The stream a call of `conn` turns on or off. -/
def RegAction.switchOf (conn : ConnId) : RegAction → Option (String × Bool)
  | .subscribe caller stream =>
      if caller = conn then some (stream, true) else none
  | .unsubscribe caller stream =>
      if caller = conn then some (stream, false) else none
  | _ => none

namespace ConnView

variable {view next : ConnView} {effect : SharedEffect}

/-- The connection is on the list of `stream`, or its `subscribe` call is about
to put it there. -/
def Joined (view : ConnView) (stream : String) : Prop :=
  view.listed stream ∨ view.task = .pushing stream

/-- No `deregister` call has taken the entry of the connection yet. -/
def Present (view : ConnView) : Prop :=
  view.held ≠ none ∨ ¬ view.task.Born

theorem Present.of_step (present : next.Present)
    (moved : ViewStep view effect next) : view.Present := by
  cases moved <;> grind [Present, TaskPc.Born]

/-- A call begins, or the membership stays as it is. -/
inductive JoinMove (view next : ConnView) : Prop
  | subscribe (stream : String) :
      view.task = .ready → next.task = .pushing stream →
      (∀ tested, next.Joined tested ↔
        tested = stream ∨ view.Joined tested) →
      JoinMove view next
  | unsubscribe (stream : String) :
      view.task = .ready →
      next.task = .pruning stream ∨ next.task = .forgetting stream →
      (∀ tested, next.Joined tested ↔
        tested ≠ stream ∧ view.Joined tested) →
      JoinMove view next
  | same :
      (view.task = .ready → next.task = .ready) →
      (∀ tested, next.Joined tested ↔ view.Joined tested) →
      JoinMove view next

theorem joinMove_of_step (coherent : view.Coherent)
    (moved : ViewStep view effect next) (present : next.Present) :
    JoinMove view next := by
  have detached := coherent.detached
  have stages := coherent.birthStages
  cases moved with
  | lock stream held atReady isHeld absent =>
      refine .subscribe stream atReady rfl (fun tested => ?_)
      grind [Joined]
  | retain stream emptied atReady =>
      refine .unsubscribe stream atReady ?_ (fun tested => ?_)
      · cases emptied <;> simp
      · cases emptied <;> simp [Joined, atReady]
  | push stream atPush =>
      refine .same (by simp [atPush]) (fun tested => ?_)
      grind [Joined]
  | ownTake atTake => grind [Present, TaskPc.Born]
  | ownDetach stream rest emptied atDetach =>
      grind [Present, TaskPc.Born, Detached]
  | fanDetach stream rest emptied atDetach =>
      grind [Present, Detached, BirthStages]
  | _ =>
      refine .same ?_ (fun tested => ?_)
      · grind
      · grind [Joined]

/-- A connection joins a stream by a `subscribe` call. -/
theorem Joined.of_step {stream : String} (joined : next.Joined stream)
    (moved : ViewStep view effect next) :
    view.Joined stream ∨
      view.task = .ready ∧ next.task = .pushing stream := by
  cases moved <;> grind [Joined]

end ConnView

namespace RegSystem

variable {sys next : RegSystem} {action : RegAction} {conn : ConnId}

/-- A repeated `subscribe` is ignored because the stream lists the connection
already. -/
theorem joined_of_ignored {stream : String} (sound : sys.Sound)
    (ready : sys.task conn = .ready)
    (already :
      ∀ held, sys.reg.connStreams.lookup conn = some held → stream ∈ held)
    (present : (sys.view conn).Present) : (sys.view conn).Joined stream := by
  rcases present with taken | notBorn
  · obtain ⟨held, isHeld⟩ := Option.ne_none_iff_exists'.mp taken
    rcases (sound.coherent conn).heldListed held stream isHeld
        (already held isHeld) with
      isListed | pruning | forgetting
    · exact Or.inl isListed
    · cases ready.symm.trans pruning
    · cases ready.symm.trans forgetting
  · have task : (sys.view conn).task = .ready := ready
    rw [task] at notBorn
    exact absurd trivial notBorn

/-- Only its own calls change which streams a present connection has joined. -/
theorem Steps.joined (sound : sys.Sound) (steps : Steps sys action next)
    (present : (next.view conn).Present) :
    (∃ stream, action = .subscribe conn stream ∧
        ∀ tested, (next.view conn).Joined tested ↔
          tested = stream ∨ (sys.view conn).Joined tested) ∨
      (∃ stream, action = .unsubscribe conn stream ∧
        ∀ tested, (next.view conn).Joined tested ↔
          tested ≠ stream ∧ (sys.view conn).Joined tested) ∨
      (∀ stream, action ≠ .subscribe conn stream ∧
          action ≠ .unsubscribe conn stream) ∧
        ∀ tested,
          (next.view conn).Joined tested ↔ (sys.view conn).Joined tested := by
  have viewMove : ConnView.JoinMove (sys.view conn) (next.view conn) := by
    rcases steps.view_cases sound conn with same | ⟨effect, moved⟩
    · rw [same]
      exact .same id (fun _ => Iff.rfl)
    · exact ConnView.joinMove_of_step (sound.coherent conn) moved present
  cases viewMove with
  | subscribe stream ready pushing joins =>
      exact Or.inl
        ⟨stream, steps.subscribe_of_pushing ready pushing, joins⟩
  | unsubscribe stream ready there leaves =>
      rcases steps.task_of_ready ready with
        still | ⟨asked, -, isPushing⟩ | ⟨asked, isCall, isThere⟩ |
          ⟨-, pc, isDereg⟩
      · grind [view]
      · grind [view]
      · have same : asked = stream := by
          grind [view]
        exact Or.inr (Or.inl ⟨stream, same ▸ isCall, leaves⟩)
      · grind [view]
  | same stays same =>
      by_cases subscribes : ∃ stream, action = .subscribe conn stream
      · -- The call was ignored.
        obtain ⟨stream, rfl⟩ := subscribes
        cases steps with
        | subscribeIgnored _ _ ready already =>
            refine Or.inl ⟨stream, rfl, fun tested => ?_⟩
            constructor
            · exact Or.inr
            · rintro (rfl | joined)
              · exact joined_of_ignored sound ready already present
              · exact joined
        | subscribe _ _ held ready isHeld absent =>
            have still := stays ready
            rw [view_move_self] at still
            cases still
      · refine Or.inr (Or.inr ⟨fun stream => ⟨?_, ?_⟩, same⟩)
        · intro isCall
          exact subscribes ⟨stream, isCall⟩
        · rintro rfl
          cases steps with
          | unsubscribe _ _ ready unlocked =>
              have still := stays ready
              rw [view_move_self] at still
              simp only [viewAt] at still
              split at still <;> cases still

/-- The streams a present connection has joined are those its calls leave
switched on. -/
theorem Steps.joined_isOn {log : List (String × Bool)} (sound : sys.Sound)
    (steps : Steps sys action next) (present : (next.view conn).Present)
    (joined :
      ∀ stream, (sys.view conn).Joined stream ↔ isOn log stream = true)
    (stream : String) :
    (next.view conn).Joined stream ↔
      isOn (log ++ (action.switchOf conn).toList) stream = true := by
  rcases steps.joined sound present with
    ⟨asked, rfl, joins⟩ | ⟨asked, rfl, leaves⟩ | ⟨notCall, same⟩
  · simp only [RegAction.switchOf, if_true, Option.toList_some,
      isOn_append_singleton, joins stream, joined stream]
    by_cases same : asked = stream
    · simp [same]
    · simp [same, Ne.symm same]
  · simp only [RegAction.switchOf, if_true, Option.toList_some,
      isOn_append_singleton, leaves stream, joined stream]
    by_cases same : asked = stream
    · simp [same]
    · simp [same, Ne.symm same]
  · have noSwitch : action.switchOf conn = none := by
      cases action with
      | subscribe caller asked =>
          refine if_neg (fun isConn => (notCall asked).1 ?_)
          rw [isConn]
      | unsubscribe caller asked =>
          refine if_neg (fun isConn => (notCall asked).2 ?_)
          rw [isConn]
      | _ => rfl
    rw [noSwitch, Option.toList_none, List.append_nil, same, joined]

theorem Steps.present (sound : sys.Sound) (steps : Steps sys action next)
    (present : (next.view conn).Present) : (sys.view conn).Present := by
  rcases steps.view_cases sound conn with same | ⟨effect, moved⟩
  · rw [← same]
    exact present
  · exact present.of_step moved

theorem Steps.joined_of_step {stream : String} (sound : sys.Sound)
    (steps : Steps sys action next)
    (joined : (next.view conn).Joined stream) :
    (sys.view conn).Joined stream ∨ action = .subscribe conn stream := by
  rcases steps.view_cases sound conn with same | ⟨effect, moved⟩
  · rw [same] at joined
    exact Or.inl joined
  · rcases joined.of_step moved with before | ⟨ready, pushing⟩
    · exact Or.inl before
    · exact Or.inr (steps.subscribe_of_pushing ready pushing)

end RegSystem

end TurbocableServer.Connection
