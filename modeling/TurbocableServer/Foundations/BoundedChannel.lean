import Mathlib.Data.List.Basic
import Mathlib.Tactic.Simps.Basic

/-!
# Bounded multi-producer channels

A bounded FIFO channel with counted senders and one receiver.  The items that
were already handed to the receiver are kept in `received`, so that the whole
history of the channel is `received ++ buf` by construction and no ordering
invariant has to be carried along.
-/

namespace TurbocableServer.Foundations

universe u v

variable {α : Type u} {β : Type v}

/-- A bounded channel: what the receiver already took, what still waits, the
number of slots, the number of live senders, and whether the receiver is
alive. -/
structure Channel (α : Type u) where
  received : List α
  buf : List α
  capacity : Nat
  senders : Nat
  receiverAlive : Bool
  deriving DecidableEq, Repr

/-- Answer of a receive: an item with the channel left behind, the end of a
channel all of whose senders are gone, or nothing yet. -/
inductive RecvResult (α : Type u) where
  | item (value : α) (rest : Channel α)
  | closed
  | pending

namespace Channel

/-- A fresh channel held by the given number of senders. -/
def new (capacity senders : Nat) : Channel α where
  received := []
  buf := []
  capacity := capacity
  senders := senders
  receiverAlive := true

/-- Every item the channel ever accepted, oldest first. -/
def sent (channel : Channel α) : List α :=
  channel.received ++ channel.buf

/-- There is a free slot. -/
def hasRoom (channel : Channel α) : Bool :=
  decide (channel.buf.length < channel.capacity)

/-- Append an item to the queue. -/
def push (channel : Channel α) (value : α) : Channel α :=
  { channel with buf := channel.buf ++ [value] }

/-- Non-blocking send: refused on a full channel and on one whose receiver is
gone. -/
def trySend (channel : Channel α) (value : α) : Option (Channel α) :=
  if channel.receiverAlive && channel.hasRoom then
    some (channel.push value)
  else
    none

/-- The channel is open and has a free slot. -/
def accepts (channel : Channel α) : Bool :=
  channel.receiverAlive && channel.hasRoom

/-- Awaited send: waits on a full channel, and answers whether the value was
taken or the receiver is gone. -/
def send (channel : Channel α) (value : α) : Option (Channel α × Bool) :=
  if channel.receiverAlive then
    if channel.hasRoom then some (channel.push value, true) else none
  else
    some (channel, false)

/-- Non-blocking receive. -/
def tryRecv (channel : Channel α) : Option (α × Channel α) :=
  match channel.buf with
  | [] => none
  | value :: rest =>
      some (value,
        { channel with
          received := channel.received ++ [value]
          buf := rest })

/-- Receive as a polled future: an empty channel answers `closed` once no
sender is left. -/
def recv (channel : Channel α) : RecvResult α :=
  match channel.tryRecv with
  | some (value, rest) => .item value rest
  | none => if channel.senders = 0 then .closed else .pending

/-- One more sender handle. -/
def cloneSender (channel : Channel α) : Channel α :=
  { channel with senders := channel.senders + 1 }

/-- One sender handle less. -/
def dropSender (channel : Channel α) : Channel α :=
  { channel with senders := channel.senders - 1 }

/-- The receiver is dropped; what still waits is never delivered. -/
def dropReceiver (channel : Channel α) : Channel α :=
  { channel with receiverAlive := false }

@[simp]
theorem sent_push (channel : Channel α) (value : α) :
    (channel.push value).sent = channel.sent ++ [value] := by
  simp [sent, push]

@[simp]
theorem received_push (channel : Channel α) (value : α) :
    (channel.push value).received = channel.received :=
  rfl

@[simp]
theorem buf_push (channel : Channel α) (value : α) :
    (channel.push value).buf = channel.buf ++ [value] :=
  rfl

theorem trySend_of_accepts {channel : Channel α}
    (accepts : channel.accepts = true) (value : α) :
    channel.trySend value = some (channel.push value) :=
  if_pos accepts

theorem trySend_of_refuses {channel : Channel α}
    (refuses : channel.accepts = false) (value : α) :
    channel.trySend value = none :=
  if_neg (Bool.eq_false_iff.mp refuses)

theorem trySend_eq_some {channel target : Channel α} {value : α}
    (accepted : channel.trySend value = some target) :
    target = channel.push value := by
  unfold trySend at accepted
  split at accepted
  · exact (Option.some.inj accepted).symm
  · cases accepted

theorem send_eq_true {channel target : Channel α} {value : α}
    (accepted : channel.send value = some (target, true)) :
    target = channel.push value := by
  unfold send at accepted
  split at accepted
  · split at accepted
    · exact (Prod.mk.inj (Option.some.inj accepted)).1.symm
    · cases accepted
  · cases accepted

/-- An awaited send is taken only when there is room. -/
theorem length_lt_of_send {channel target : Channel α} {value : α}
    (accepted : channel.send value = some (target, true)) :
    channel.buf.length < channel.capacity := by
  unfold send at accepted
  split at accepted
  · split at accepted
    · rename_i room
      exact of_decide_eq_true room
    · cases accepted
  · cases accepted

theorem send_eq_false {channel target : Channel α} {value : α}
    (refused : channel.send value = some (target, false)) :
    target = channel := by
  unfold send at refused
  split at refused
  · split at refused <;> cases refused
  · exact (Prod.mk.inj (Option.some.inj refused)).1.symm

/-- A receive takes the head of the queue and keeps the rest in order. -/
theorem tryRecv_eq_some {channel rest : Channel α} {value : α}
    (taken : channel.tryRecv = some (value, rest)) :
    channel.buf = value :: rest.buf ∧
      rest.received = channel.received ++ [value] ∧
      rest.sent = channel.sent := by
  unfold tryRecv at taken
  split at taken
  · cases taken
  · rename_i head tail shape
    obtain ⟨rfl, rfl⟩ := Prod.mk.inj (Option.some.inj taken)
    refine ⟨shape, rfl, ?_⟩
    simp [sent, shape]

theorem tryRecv_eq_none_iff (channel : Channel α) :
    channel.tryRecv = none ↔ channel.buf = [] := by
  unfold tryRecv
  split <;> simp_all

theorem recv_eq_item {channel rest : Channel α} {value : α}
    (taken : channel.recv = .item value rest) :
    channel.tryRecv = some (value, rest) := by
  unfold recv at taken
  split at taken
  · rename_i head tail shape
    cases taken
    exact shape
  · split at taken <;> cases taken

/-! ## Renaming the items -/

/-- The channel with other names for its items. -/
@[simps]
def map (f : α → β) (channel : Channel α) : Channel β where
  received := channel.received.map f
  buf := channel.buf.map f
  capacity := channel.capacity
  senders := channel.senders
  receiverAlive := channel.receiverAlive

theorem map_push (f : α → β) (channel : Channel α) (value : α) :
    (channel.map f).push (f value) = (channel.push value).map f := by
  simp [push, map]

theorem map_hasRoom (f : α → β) (channel : Channel α) :
    (channel.map f).hasRoom = channel.hasRoom := by
  simp [hasRoom]

theorem map_trySend (f : α → β) (channel : Channel α) (value : α) :
    (channel.map f).trySend (f value) =
      (channel.trySend value).map (map f) := by
  unfold trySend
  rw [map_hasRoom, map_receiverAlive]
  split
  · rw [map_push, Option.map_some]
  · rfl

theorem map_send (f : α → β) (channel : Channel α) (value : α) :
    (channel.map f).send (f value) =
      (channel.send value).map (Prod.map (map f) id) := by
  unfold send
  rw [map_hasRoom, map_receiverAlive]
  split
  · split
    · rw [map_push, Option.map_some]
      rfl
    · rfl
  · rfl

theorem map_tryRecv (f : α → β) (channel : Channel α) :
    (channel.map f).tryRecv =
      (channel.tryRecv).map (Prod.map f (map f)) := by
  unfold tryRecv
  cases shape : channel.buf with
  | nil =>
      simp [shape]
  | cons head tail =>
      simp [shape, map]

/-- The answer of a receive with other names for the items. -/
def mapResult (f : α → β) : RecvResult α → RecvResult β
  | .item value rest => .item (f value) (rest.map f)
  | .closed => .closed
  | .pending => .pending

theorem map_recv (f : α → β) (channel : Channel α) :
    (channel.map f).recv = mapResult f channel.recv := by
  unfold recv
  rw [map_tryRecv, map_senders]
  cases channel.tryRecv with
  | none =>
      simp only [Option.map_none]
      split <;> rfl
  | some taken =>
      rfl

end Channel

end TurbocableServer.Foundations
