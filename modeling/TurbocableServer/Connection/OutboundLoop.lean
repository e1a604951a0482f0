import TurbocableServer.Foundations.BoundedChannel

/-!
# Outbound loop

`outbound_loop` of `connection/handler.rs` as a machine with one program point
for every place where the task can be suspended between two channel accesses.
A step reads at most one channel and writes at most one frame, so the steps of
several tasks can be interleaved; running a step at the head of the loop and
then the burst it may have started gives one iteration of the loop body.

The machine is parametric in the payloads of the queues and in the conversion
of a payload to a WebSocket message.  A step is told by its environment whether
the shutdown signal has fired and whether the socket accepts the write.
-/

namespace TurbocableServer.Connection

open Foundations

/-- A WebSocket data message. -/
inductive WsMessage where
  | text (content : String)
  | binary (content : ByteArray)

/-- A payload that is not UTF-8 has no text form and is dropped. -/
def bytesToWsMsg (isBinary : Bool) (payload : ByteArray) :
    Option WsMessage :=
  if isBinary then
    some (.binary payload)
  else
    (String.fromUTF8? payload).map .text

/-- Replay frames written before the loop returns to its `select!`. -/
def outboundReplayBurst : Nat := 512

inductive OutboundPc where
  | unspawned
  | select
  | burst (left : Nat)
  | drainReplay
  | drainLive
  | exited
  deriving DecidableEq, Repr

/-- What is written to the socket: data, the `1001` close frame of a shutdown,
and the closing handshake of `sender.close()`. -/
inductive SocketFrame (μ : Type) where
  | data (message : μ)
  | goingAway
  | closing
  deriving DecidableEq, Repr

structure OutboundState (β μ : Type) where
  evict : Channel Unit
  urgent : Channel β
  replay : Channel β
  live : Channel β
  evictOpen : Bool
  urgentOpen : Bool
  pc : OutboundPc
  socket : List (SocketFrame μ)

namespace OutboundState

variable {β μ : Type}

/-- The task returns and its receivers are dropped. -/
def exit (state : OutboundState β μ) : OutboundState β μ :=
  { state with
    evict := state.evict.dropReceiver
    urgent := state.urgent.dropReceiver
    replay := state.replay.dropReceiver
    live := state.live.dropReceiver
    pc := .exited }

def emit (state : OutboundState β μ) (ok : Bool) (frame : SocketFrame μ) :
    OutboundState β μ :=
  if ok then { state with socket := state.socket ++ [frame] } else state

/-- `sender.close()` and return. -/
def hangUp (state : OutboundState β μ) (ok : Bool) : OutboundState β μ :=
  (state.emit ok .closing).exit

section Steps

variable (toMsg : β → Option μ) (ok : Bool)

/-- Write a payload and continue at `onward`; a failed write continues at
`failed`.  A payload without a message form counts as written. -/
def writeThen (state : OutboundState β μ) (payload : β)
    (onward failed : OutboundState β μ → OutboundState β μ) :
    OutboundState β μ :=
  match toMsg payload with
  | none => onward state
  | some message =>
      if ok then onward (state.emit true (.data message)) else failed state

/-- Send one last frame, whatever becomes of it, and close. -/
def closeWith (state : OutboundState β μ) (payload : β) :
    OutboundState β μ :=
  (writeThen toMsg ok state payload id id).hangUp ok

def goTo (pc : OutboundPc) (state : OutboundState β μ) :
    OutboundState β μ :=
  { state with pc := pc }

/-- Program point after a burst frame with `left` turns of the loop to go. -/
def burstPc (left : Nat) : OutboundPc :=
  if left = 0 then .select else .burst left

/-- The `live_rx.recv()` branch. -/
def liveBranch (state : OutboundState β μ) : Option (OutboundState β μ) :=
  match state.live.recv with
  | .item payload rest =>
      some (writeThen toMsg ok { state with live := rest } payload
        id (fun failed => failed.hangUp ok))
  | .closed => some (state.hangUp ok)
  | .pending => none

/-- The `replay_rx.recv()` branch, then the branches after it.  A closed replay
queue is ready with nothing to do. -/
def replayBranch (state : OutboundState β μ) :
    Option (OutboundState β μ) :=
  match state.replay.recv with
  | .item payload rest =>
      some (writeThen toMsg ok { state with replay := rest } payload
        (goTo (burstPc (outboundReplayBurst - 1)))
        (fun failed => failed.hangUp ok))
  | .closed => some state
  | .pending => liveBranch toMsg ok state

/-- The `shutdown_rx.changed()` branch, then the branches after it. -/
def shutdownBranch (shutdown : Bool) (state : OutboundState β μ) :
    Option (OutboundState β μ) :=
  if shutdown then
    some (goTo .drainReplay state)
  else
    replayBranch toMsg ok state

/-- The guarded `urgent_close_rx.recv()` branch, then the branches after it. -/
def urgentBranch (shutdown : Bool) (state : OutboundState β μ) :
    Option (OutboundState β μ) :=
  if state.urgentOpen then
    match state.urgent.recv with
    | .item payload rest =>
        some (closeWith toMsg ok { state with urgent := rest } payload)
    | .closed => some { state with urgentOpen := false }
    | .pending => shutdownBranch toMsg ok shutdown state
  else
    shutdownBranch toMsg ok shutdown state

/-- The `select!`: the first ready enabled branch in textual order, with the
guarded `evict_rx.recv()` branch on top. -/
def selectStep (disconnectFrame : β) (shutdown : Bool)
    (state : OutboundState β μ) : Option (OutboundState β μ) :=
  if state.evictOpen then
    match state.evict.recv with
    | .item _ rest =>
        some (closeWith toMsg ok { state with evict := rest }
          disconnectFrame)
    | .closed => some { state with evictOpen := false }
    | .pending => urgentBranch toMsg ok shutdown state
  else
    urgentBranch toMsg ok shutdown state

/-- One turn of the burst loop inside the replay branch. -/
def burstStep (left : Nat) (state : OutboundState β μ) :
    OutboundState β μ :=
  match state.replay.tryRecv with
  | none => goTo .select state
  | some (payload, rest) =>
      writeThen toMsg ok { state with replay := rest } payload
        (goTo (burstPc (left - 1))) (fun failed => failed.hangUp ok)

def drainReplayStep (state : OutboundState β μ) : OutboundState β μ :=
  match state.replay.tryRecv with
  | none => goTo .drainLive state
  | some (payload, rest) =>
      writeThen toMsg ok { state with replay := rest } payload
        id (goTo .drainLive)

def drainLiveStep (state : OutboundState β μ) : OutboundState β μ :=
  match state.live.tryRecv with
  | none => (state.emit ok .goingAway).exit
  | some (payload, rest) =>
      writeThen toMsg ok { state with live := rest } payload
        id (fun failed => (failed.emit ok .goingAway).exit)

/-- One step of the task; `none` means that it waits. -/
def step (disconnectFrame : β) (shutdown : Bool)
    (state : OutboundState β μ) : Option (OutboundState β μ) :=
  match state.pc with
  | .unspawned => none
  | .select => selectStep toMsg ok disconnectFrame shutdown state
  | .burst left => some (burstStep toMsg ok left state)
  | .drainReplay => some (drainReplayStep toMsg ok state)
  | .drainLive => some (drainLiveStep toMsg ok state)
  | .exited => none

end Steps

/-! ## Whole iterations -/

section Iterations

variable (toMsg : β → Option μ) (disconnectFrame : β)

/-- Run the burst loop of the replay branch to its end. -/
def finishBurst : Nat → OutboundState β μ → OutboundState β μ
  | 0, state => state
  | turns + 1, state =>
      match state.pc with
      | .burst left => finishBurst turns (burstStep toMsg true left state)
      | _ => state

/-- One iteration of the loop body while shutdown is not signalled, socket
writes succeed and no other task interferes. -/
def iteration (state : OutboundState β μ) : Option (OutboundState β μ) :=
  (step toMsg true disconnectFrame false state).map
    (finishBurst toMsg outboundReplayBurst)

def iterations : Nat → OutboundState β μ → Option (OutboundState β μ)
  | 0, state => some state
  | count + 1, state =>
      (iteration toMsg disconnectFrame state).bind (iterations count)

end Iterations

end OutboundState

end TurbocableServer.Connection
