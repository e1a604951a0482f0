import Mathlib.Data.List.Induction
import TurbocableServer.Connection.Handler

/-!
# Handshake enforcement

What `handle_client_frame` does with a whole sequence of inbound frames.  The
three variables it keeps between frames are determined by the hello frames
received so far, so that the outcome of a Subscribe can be read off the history.
-/

namespace TurbocableServer.Connection

open Protocol Auth

section

variable (env : Environment) (ctx : ConnContext)

/-- The variables of `inbound_loop` after some decoded frames. -/
def inboundAfter (frames : List ClientFrame) : InboundState :=
  frames.foldl
    (fun state frame => (handleClientFrame env ctx state (some frame)).1)
    .initial

/-- A sequence of inbound frames: the variables after it and all effects, in
order.  `decode` is the decoder of the connection's codec. -/
def handleFrames (decode : ByteArray → Option ClientFrame) :
    InboundState → List ByteArray → InboundState × List Effect
  | state, [] => (state, [])
  | state, data :: rest =>
      let handled := handleClientFrame env ctx state (decode data)
      let later := handleFrames decode handled.1 rest
      (later.1, handled.2 ++ later.2)

end

def helloOf : ClientFrame → Option HelloCommand
  | .hello hello => some hello
  | .command _ => none

/-- The mode lets a Subscribe pass after the given frames. -/
def modeAllows (enforcement : ReplayEnforcement) (frames : List ClientFrame) :
    Bool :=
  match enforcement with
  | .compat => true
  | .softEnforce => frames.any (fun frame => (helloOf frame).isSome)
  | .hardEnforce =>
      match (frames.filterMap helloOf).getLast? with
      | some hello => hello.isReplayCapable
      | none => false

section

variable {env : Environment} {ctx : ConnContext}

theorem inboundAfter_append (frames : List ClientFrame) (frame : ClientFrame) :
    inboundAfter env ctx (frames ++ [frame]) =
      (handleClientFrame env ctx (inboundAfter env ctx frames)
        (some frame)).1 := by
  simp [inboundAfter, List.foldl_append]

/-! ## The variables, from the history -/

/-- A command leaves the replay variables alone. -/
theorem dispatchCommand_kept (state : InboundState) (command : ClientCommand) :
    (dispatchCommand env ctx state command).1.connState = state.connState ∧
      (dispatchCommand env ctx state command).1.replayCapable =
        state.replayCapable ∧
      (dispatchCommand env ctx state command).1.lastSeq = state.lastSeq := by
  cases command with
  | subscribe identifier =>
      simp only [dispatchCommand, dispatchSubscribe]
      split
      · exact ⟨rfl, rfl, rfl⟩
      · split
        · exact ⟨rfl, rfl, rfl⟩
        · split <;> exact ⟨rfl, rfl, rfl⟩
  | unsubscribe identifier =>
      simp only [dispatchCommand, dispatchUnsubscribe]
      split <;> exact ⟨rfl, rfl, rfl⟩
  | message identifier data =>
      exact ⟨rfl, rfl, rfl⟩

theorem handleClientFrame_command_kept (state : InboundState)
    (command : ClientCommand) :
    (handleClientFrame env ctx state (some (.command command))).1.replayCapable =
        state.replayCapable ∧
      (env.enforcement.requiresHelloFirst = true →
        (handleClientFrame env ctx state
          (some (.command command))).1.connState = state.connState) := by
  simp only [handleClientFrame]
  split
  · rename_i awaiting
    split
    · cases command <;> exact ⟨rfl, fun _ => rfl⟩
    · rename_i lenient
      refine ⟨(dispatchCommand_kept _ command).2.1, ?_⟩
      intro strict
      exact absurd strict lenient
  · exact ⟨(dispatchCommand_kept state command).2.1,
      fun _ => (dispatchCommand_kept state command).1⟩

theorem replayCapable_inboundAfter (frames : List ClientFrame) :
    (inboundAfter env ctx frames).replayCapable =
      match (frames.filterMap helloOf).getLast? with
      | some hello => hello.isReplayCapable
      | none => false := by
  induction frames using List.reverseRecOn with
  | nil =>
      rfl
  | append_singleton frames frame ih =>
      rw [inboundAfter_append, List.filterMap_append]
      cases frame with
      | hello hello =>
          simp [handleClientFrame, helloOf]
      | command command =>
          rw [(handleClientFrame_command_kept _ command).1, ih]
          simp [helloOf]

/-- Where hello must come first, it is the only way to become active. -/
theorem connState_inboundAfter
    (strict : env.enforcement.requiresHelloFirst = true)
    (frames : List ClientFrame) :
    (inboundAfter env ctx frames).connState = .active ↔
      frames.any (fun frame => (helloOf frame).isSome) = true := by
  induction frames using List.reverseRecOn with
  | nil =>
      simp [inboundAfter, InboundState.initial]
  | append_singleton frames frame ih =>
      rw [inboundAfter_append, List.any_append]
      cases frame with
      | hello hello =>
          simp [handleClientFrame, helloOf]
      | command command =>
          rw [(handleClientFrame_command_kept _ command).2 strict, ih]
          simp [helloOf]

/-! ## A Subscribe -/

theorem mem_dispatchSubscribe_iff (state : InboundState)
    (identifier stream : String) :
    .registrySubscribe stream ∈
        (dispatchSubscribe env ctx state identifier).2 ↔
      stream = env.streamKey identifier ∧
        (env.enforcement.rejectsNonReplaySubscribe = true →
          state.replayCapable = true) ∧
        isAllowed ctx.allowedStreams identifier = true := by
  have notConfirm :
      ∀ lastSeq,
        Effect.registrySubscribe stream ≠
          confirmEffect env lastSeq identifier := by
    intro lastSeq
    rcases confirmEffect_cases env lastSeq identifier with
      direct | ⟨since, -, replayed⟩
    · simp [direct]
    · simp [replayed]
  unfold dispatchSubscribe
  split
  · rename_i rejected
    simp only [Bool.and_eq_true, Bool.not_eq_true'] at rejected
    simp [rejectEffect, rejected]
  · rename_i capable
    split
    · rename_i forbidden
      simp only [Bool.not_eq_true'] at forbidden
      simp [rejectEffect, forbidden]
    · rename_i allowed
      simp only [Bool.not_eq_true', Bool.not_eq_false] at allowed
      have mayReplay :
          env.enforcement.rejectsNonReplaySubscribe = true →
            state.replayCapable = true := by
        simpa using capable
      split <;>
      · simp only [List.mem_cons, List.not_mem_nil, or_false, notConfirm,
          Effect.registrySubscribe.injEq, reduceCtorEq, allowed,
          and_true]
        exact ⟨fun same => ⟨same, mayReplay⟩, fun both => both.1⟩

/-- What the handler asks of its variables before it calls the registry. -/
def Passes (env : Environment) (state : InboundState) : Prop :=
  (env.enforcement.requiresHelloFirst = true → state.connState = .active) ∧
    (env.enforcement.rejectsNonReplaySubscribe = true →
      state.replayCapable = true)

theorem mem_handleClientFrame_iff (state : InboundState)
    (identifier stream : String) :
    .registrySubscribe stream ∈
        (handleClientFrame env ctx state
          (some (.command (.subscribe identifier)))).2 ↔
      stream = env.streamKey identifier ∧ Passes env state ∧
        isAllowed ctx.allowedStreams identifier = true := by
  simp only [handleClientFrame]
  split
  · rename_i awaiting
    split
    · rename_i strict
      have refused : ¬ Passes env state := by
        intro passes
        have active := passes.1 strict
        rw [awaiting] at active
        cases active
      simp [rejectEffect, refused]
    · rename_i lenient
      rw [dispatchCommand, mem_dispatchSubscribe_iff]
      simp [Passes, lenient]
  · rename_i notAwaiting
    have active : state.connState = .active := by
      cases isState : state.connState with
      | awaitingHello => exact absurd isState notAwaiting
      | active => rfl
    rw [dispatchCommand, mem_dispatchSubscribe_iff]
    simp [Passes, active]

theorem passes_inboundAfter_iff (frames : List ClientFrame) :
    Passes env (inboundAfter env ctx frames) ↔
      modeAllows env.enforcement frames = true := by
  cases mode : env.enforcement with
  | compat =>
      simp [Passes, mode, ReplayEnforcement.requiresHelloFirst,
        ReplayEnforcement.rejectsNonReplaySubscribe, modeAllows]
  | softEnforce =>
      have active :=
        @connState_inboundAfter env ctx (by rw [mode]; rfl) frames
      simp [Passes, mode, ReplayEnforcement.requiresHelloFirst,
        ReplayEnforcement.rejectsNonReplaySubscribe, modeAllows, active]
  | hardEnforce =>
      have active :=
        @connState_inboundAfter env ctx (by rw [mode]; rfl) frames
      simp only [Passes, mode, ReplayEnforcement.requiresHelloFirst,
        ReplayEnforcement.rejectsNonReplaySubscribe, modeAllows, active,
        replayCapable_inboundAfter, true_imp_iff]
      -- The latest hello is a hello.
      refine ⟨And.right, fun capable => ⟨?_, capable⟩⟩
      cases latest : (frames.filterMap helloOf).getLast? with
      | none =>
          rw [latest] at capable
          cases capable
      | some hello =>
          obtain ⟨frame, member, isHello⟩ :=
            List.mem_filterMap.mp (List.mem_of_getLast? latest)
          exact List.any_eq_true.mpr ⟨frame, member, by simp [isHello]⟩

/-! ## Sequences of frames -/

section

variable (decode : ByteArray → Option ClientFrame)

theorem handleFrames_append (state : InboundState)
    (first second : List ByteArray) :
    handleFrames env ctx decode state (first ++ second) =
      let before := handleFrames env ctx decode state first
      let after := handleFrames env ctx decode before.1 second
      (after.1, before.2 ++ after.2) := by
  induction first generalizing state with
  | nil =>
      rfl
  | cons data rest ih =>
      simp only [List.cons_append, handleFrames, ih,
        List.append_assoc]

theorem handleFrames_fst (state : InboundState) (data : List ByteArray) :
    (handleFrames env ctx decode state data).1 =
      (data.filterMap decode).foldl
        (fun state frame => (handleClientFrame env ctx state (some frame)).1)
        state := by
  induction data generalizing state with
  | nil =>
      rfl
  | cons head rest ih =>
      rw [handleFrames, ih]
      cases decoded : decode head with
      | none =>
          simp [decoded, handleClientFrame]
      | some frame =>
          simp [decoded]

/-- The answer to a frame before any hello. -/
def refusal (data : ByteArray) : Option Effect :=
  match decode data with
  | some (.command (.subscribe identifier)) => some (rejectEffect identifier)
  | _ => none

theorem handleFrames_without_hello
    (strict : env.enforcement.requiresHelloFirst = true)
    (data : List ByteArray)
    (noHello :
      ∀ frame, frame ∈ data.filterMap decode → helloOf frame = none) :
    handleFrames env ctx decode .initial data =
      (.initial, data.filterMap (refusal decode)) := by
  induction data with
  | nil =>
      rfl
  | cons head rest ih =>
      have later := ih (fun frame member => by
        refine noHello frame ?_
        rw [List.filterMap_cons]
        split
        · exact member
        · exact List.mem_cons_of_mem _ member)
      have handled :
          handleClientFrame env ctx .initial (decode head) =
            (.initial, (refusal decode head).toList) := by
        rcases decoded : decode head with _ | frame
        · simp [handleClientFrame, refusal, decoded]
        · cases frame with
          | hello hello =>
              have isHello := noHello (.hello hello)
                (List.mem_filterMap.mpr
                  ⟨head, List.mem_cons_self .., decoded⟩)
              cases isHello
          | command command =>
              cases command <;>
                simp [handleClientFrame, refusal, decoded,
                  InboundState.initial, strict]
      rw [handleFrames, handled, later, List.filterMap_cons]
      cases refusal decode head <;> rfl

end

/-- The handshake over whole sequences of inbound frames: without a hello the
strict modes answer Subscribes with rejections and do nothing else; the registry
is called exactly for the Subscribes that mode, history and token allow; frames
that do not decode make no difference. -/
theorem handshake_enforced (env : Environment) (ctx : ConnContext)
    (decode : ByteArray → Option ClientFrame) :
    (env.enforcement = .softEnforce ∨ env.enforcement = .hardEnforce →
      ∀ data : List ByteArray,
        (∀ frame, frame ∈ data.filterMap decode → helloOf frame = none) →
          handleFrames env ctx decode .initial data =
            (.initial, data.filterMap (refusal decode))) ∧
      (∀ (before : List ByteArray) (data : ByteArray) (identifier : String),
        decode data = some (.command (.subscribe identifier)) →
          ∀ stream,
            .registrySubscribe stream ∈
                (handleClientFrame env ctx
                  (handleFrames env ctx decode .initial before).1
                  (decode data)).2 ↔
              stream = env.streamKey identifier ∧
                modeAllows env.enforcement (before.filterMap decode) = true ∧
                isAllowed ctx.allowedStreams identifier = true) ∧
      ∀ (before : List ByteArray) (data : ByteArray) (after : List ByteArray),
        decode data = none →
          handleFrames env ctx decode .initial (before ++ data :: after) =
            handleFrames env ctx decode .initial (before ++ after) := by
  refine ⟨?_, ?_, ?_⟩
  · intro mode data noHello
    refine handleFrames_without_hello decode ?_ data noHello
    rcases mode with soft | hard
    · rw [soft]
      rfl
    · rw [hard]
      rfl
  · intro before data identifier decoded stream
    have isAfter :
        (handleFrames env ctx decode .initial before).1 =
          inboundAfter env ctx (before.filterMap decode) :=
      handleFrames_fst decode .initial before
    rw [decoded, isAfter, mem_handleClientFrame_iff,
      passes_inboundAfter_iff]
  · intro before data after undecodable
    rw [handleFrames_append, handleFrames_append]
    simp [handleFrames, undecodable, handleClientFrame]

end

end TurbocableServer.Connection
