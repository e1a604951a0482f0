import TurbocableServer.Connection.OutboundDelivery
import TurbocableServer.Connection.Session
import TurbocableServer.Foundations.Reachability
import TurbocableServer.Protocol.Codec

/-!
# Encoded connections

The queues of a connection as the source has them, with bytes in them.  The
frames are encoded by their producers: the connection task and the replay tasks
use the codec of the connection, the fan-out loop encodes for both codecs and
chooses by the flag in the registry entry, and the outbound task decides by a
flag of its own whether it writes text or binary messages.  What a producer
enqueues and when is left open.
-/

namespace TurbocableServer.Connection

open Foundations Protocol

/-- The message the outbound task writes for a frame. -/
def wsMessage (format : WireFormat) : Codec → ServerMessage → WsMessage
  | .json, frame => .text (format.jsonText frame)
  | .msgpack, frame => .binary (format.msgpackBytes frame)

theorem fromUTF8?_toUTF8 (text : String) :
    String.fromUTF8? text.toUTF8 = some text := by
  have valid : text.toUTF8.IsValidUTF8 := text.isValidUTF8
  exact dif_pos valid

/-- An encoded frame is never dropped. -/
theorem bytesToWsMsg_encode (format : WireFormat) {codec : Codec}
    {isBinary : Bool} (agree : isBinary = true ↔ codec = .msgpack)
    (frame : ServerMessage) :
    bytesToWsMsg isBinary (codec.encode format frame) =
      some (wsMessage format codec frame) := by
  cases codec with
  | json =>
      have isText : isBinary = false := by simpa using agree
      rw [isText, Codec.encode, bytesToWsMsg, fromUTF8?_toUTF8]
      rfl
  | msgpack =>
      rw [agree.mpr rfl]
      rfl

structure Wire where
  codec : Codec
  isBinary : Bool
  entryBinary : Bool
  disconnectFrame : ByteArray
  out : OutboundState ByteArray WsMessage

inductive WireAction where
  | answer (frame : ServerMessage)
  | fanOut (frame : ServerMessage)
  | refuse
  | replay (frame : ServerMessage)
  | urgent (frame : ServerMessage)
  | spawnOutbound
  | startTask
  | endTask
  | forget
  | dropSenders
  | outbound (ok shutdown : Bool)

namespace Wire

/-- The channels of a new connection. -/
def channels (env : Environment) : OutboundState ByteArray WsMessage where
  evict := Channel.new 1 1
  urgent := Channel.new 1 1
  replay := Channel.new env.replayCapacity 1
  live := Channel.new env.liveCapacity 2
  evictOpen := true
  urgentOpen := true
  pc := .unspawned
  socket := []

section

variable (format : WireFormat)

/-- `handle_socket` up to the welcome frame.  There is no connection if the
protocol has no codec. -/
def accept (env : Environment) (header : Option String) : Option Wire :=
  (codecForProtocol (upgradeProtocol header)).map (fun codec =>
    { codec := codec
      isBinary := upgradeProtocol header == subProtocolMsgpack
      entryBinary := upgradeProtocol header == subProtocolMsgpack
      disconnectFrame := codec.encode format backpressureFrame
      out := channels env })

/-- The payload `fanout_encoded` chooses. -/
def fanOutPayload (wire : Wire) (frame : ServerMessage) : ByteArray :=
  if wire.entryBinary then
    Codec.msgpack.encode format frame
  else
    Codec.json.encode format frame

def withOut (wire : Wire) (out : OutboundState ByteArray WsMessage) : Wire :=
  { wire with out := out }

def step (wire : Wire) : WireAction → Option Wire
  | .answer frame =>
      (wire.out.live.send (wire.codec.encode format frame)).map
        (fun (live, _) => wire.withOut { wire.out with live := live })
  | .fanOut frame =>
      (wire.out.live.trySend (wire.fanOutPayload format frame)).map
        (fun live => wire.withOut { wire.out with live := live })
  | .refuse =>
      match wire.out.evict.trySend () with
      | some evict => some (wire.withOut { wire.out with evict := evict })
      | none => some wire
  | .replay frame =>
      (wire.out.replay.send (wire.codec.encode format frame)).map
        (fun (replay, _) => wire.withOut { wire.out with replay := replay })
  | .urgent frame =>
      (wire.out.urgent.send (wire.codec.encode format frame)).map
        (fun (urgent, _) => wire.withOut { wire.out with urgent := urgent })
  | .spawnOutbound =>
      if wire.out.pc = .unspawned then
        some (wire.withOut { wire.out with pc := .select })
      else
        none
  | .startTask =>
      some (wire.withOut
        { wire.out with
          replay := wire.out.replay.cloneSender
          urgent := wire.out.urgent.cloneSender })
  | .endTask =>
      some (wire.withOut
        { wire.out with
          replay := wire.out.replay.dropSender
          urgent := wire.out.urgent.dropSender })
  | .forget =>
      some (wire.withOut
        { wire.out with
          live := wire.out.live.dropSender
          evict := wire.out.evict.dropSender })
  | .dropSenders =>
      some (wire.withOut
        { wire.out with
          live := wire.out.live.dropSender
          replay := wire.out.replay.dropSender
          urgent := wire.out.urgent.dropSender })
  | .outbound ok shutdown =>
      (wire.out.step (bytesToWsMsg wire.isBinary) ok wire.disconnectFrame
        shutdown).map wire.withOut

end

def WritesSucceed (_wire : Wire) : WireAction → Prop
  | .outbound ok _ => ok = true
  | _ => True

/-! ## The notions of the codec agree -/

structure Agrees (format : WireFormat) (wire : Wire) : Prop where
  written : wire.isBinary = true ↔ wire.codec = .msgpack
  registered : wire.entryBinary = wire.isBinary
  disconnect : wire.disconnectFrame = wire.codec.encode format backpressureFrame

theorem accept_agrees (format : WireFormat) (env : Environment)
    (header : Option String) :
    ∃ wire, accept format env header = some wire ∧ wire.Agrees format ∧
      wire.out = channels env := by
  obtain ⟨codec, isCodec, isBinary⟩ := codecForProtocol_upgradeProtocol header
  refine ⟨_, by rw [accept, isCodec, Option.map_some], ?_, rfl⟩
  exact ⟨by simp [isBinary], rfl, rfl⟩

section

variable {format : WireFormat} {wire next : Wire} {action : WireAction}

/-- Only the queues move. -/
theorem step_eq (moved : wire.step format action = some next) :
    next = wire.withOut next.out := by
  cases action with
  | refuse =>
      simp only [step] at moved
      split at moved <;>
      · obtain rfl := Option.some.inj moved
        rfl
  | spawnOutbound =>
      simp only [step] at moved
      split at moved
      · obtain rfl := Option.some.inj moved
        rfl
      · cases moved
  | answer | fanOut | replay | urgent | outbound =>
      obtain ⟨_, -, rfl⟩ := Option.map_eq_some_iff.mp moved; rfl
  | _ =>
      obtain rfl := Option.some.inj moved
      rfl

theorem Agrees.step (agrees : wire.Agrees format)
    (moved : wire.step format action = some next) : next.Agrees format := by
  rw [step_eq moved]
  exact ⟨agrees.written, agrees.registered, agrees.disconnect⟩

theorem Agrees.fanOutPayload (agrees : wire.Agrees format)
    (frame : ServerMessage) :
    wire.fanOutPayload format frame = wire.codec.encode format frame := by
  rw [Wire.fanOutPayload, agrees.registered]
  cases isCodec : wire.codec with
  | json =>
      have isText : wire.isBinary = false := by
        simpa [isCodec] using agrees.written
      simp [isText]
  | msgpack =>
      simp [agrees.written.mpr isCodec]

/-! ## What a step does to the queues -/

/-- Frames encoded for the connection were added. -/
def Extends (format : WireFormat) (codec : Codec)
    (before after : List ByteArray) : Prop :=
  ∃ frames : List ServerMessage,
    after = before ++ frames.map (codec.encode format)

theorem Extends.refl (codec : Codec) (payloads : List ByteArray) :
    Extends format codec payloads payloads :=
  ⟨[], (List.append_nil _).symm⟩

theorem Extends.isPrefix {codec : Codec} {before after : List ByteArray}
    (extended : Extends format codec before after) : before <+: after := by
  obtain ⟨frames, rfl⟩ := extended
  exact List.prefix_append _ _

/-- What the producers do. -/
structure Produces (format : WireFormat) (wire next : Wire) : Prop where
  socket : next.out.socket = wire.out.socket
  liveReceived : next.out.live.received = wire.out.live.received
  replayReceived : next.out.replay.received = wire.out.replay.received
  pc :
    next.out.pc = wire.out.pc ∨
      wire.out.pc = .unspawned ∧ next.out.pc = .select
  live : Extends format wire.codec wire.out.live.sent next.out.live.sent
  replay : Extends format wire.codec wire.out.replay.sent next.out.replay.sent
  urgent : Extends format wire.codec wire.out.urgent.sent next.out.urgent.sent

private theorem extends_of_send {codec : Codec}
    {channel target : Channel ByteArray} {frame : ServerMessage}
    {accepted : Bool}
    (sent : channel.send (codec.encode format frame) =
      some (target, accepted)) :
    Extends format codec channel.sent target.sent ∧
      target.received = channel.received := by
  cases accepted with
  | true =>
      rw [Channel.send_eq_true sent]
      exact ⟨⟨[frame], by simp⟩, rfl⟩
  | false =>
      rw [Channel.send_eq_false sent]
      exact ⟨Extends.refl _ _, rfl⟩

/-- Steps that leave the live queue and the others to one side. -/
private theorem produces_of_same {out : OutboundState ByteArray WsMessage}
    (socket : out.socket = wire.out.socket)
    (liveReceived : out.live.received = wire.out.live.received)
    (replayReceived : out.replay.received = wire.out.replay.received)
    (pc : out.pc = wire.out.pc)
    (live : Extends format wire.codec wire.out.live.sent out.live.sent)
    (replay : Extends format wire.codec wire.out.replay.sent out.replay.sent)
    (urgent : Extends format wire.codec wire.out.urgent.sent out.urgent.sent) :
    Produces format wire (wire.withOut out) :=
  ⟨socket, liveReceived, replayReceived, Or.inl pc, live, replay, urgent⟩

/-- A step is one of the outbound task or of a producer. -/
theorem step_cases (agrees : wire.Agrees format)
    (moved : wire.step format action = some next) :
    (∃ ok shutdown,
        action = .outbound ok shutdown ∧
          wire.out.step (bytesToWsMsg wire.isBinary) ok wire.disconnectFrame
            shutdown = some next.out) ∨
      Produces format wire next := by
  have same := @Extends.refl format wire.codec
  cases action with
  | outbound ok shutdown =>
      obtain ⟨out, stepped, rfl⟩ := Option.map_eq_some_iff.mp moved
      exact Or.inl ⟨ok, shutdown, rfl, stepped⟩
  | answer frame =>
      right
      obtain ⟨⟨live, accepted⟩, sent, rfl⟩ := Option.map_eq_some_iff.mp moved
      obtain ⟨extended, received⟩ := extends_of_send sent
      exact produces_of_same rfl received rfl rfl extended (same _) (same _)
  | fanOut frame =>
      right
      obtain ⟨live, accepted, rfl⟩ := Option.map_eq_some_iff.mp moved
      have pushed := Channel.trySend_eq_some accepted
      rw [agrees.fanOutPayload] at pushed
      subst pushed
      exact produces_of_same rfl rfl rfl rfl ⟨[frame], by simp⟩ (same _)
        (same _)
  | replay frame =>
      right
      obtain ⟨⟨replay, accepted⟩, sent, rfl⟩ :=
        Option.map_eq_some_iff.mp moved
      obtain ⟨extended, received⟩ := extends_of_send sent
      exact produces_of_same rfl rfl received rfl (same _) extended (same _)
  | urgent frame =>
      right
      obtain ⟨⟨urgent, accepted⟩, sent, rfl⟩ :=
        Option.map_eq_some_iff.mp moved
      exact produces_of_same rfl rfl rfl rfl (same _) (same _)
        (extends_of_send sent).1
  | refuse =>
      right
      simp only [step] at moved
      split at moved <;>
      · obtain rfl := Option.some.inj moved
        exact produces_of_same rfl rfl rfl rfl (same _) (same _) (same _)
  | spawnOutbound =>
      right
      simp only [step] at moved
      split at moved
      · rename_i unspawned
        obtain rfl := Option.some.inj moved
        exact ⟨rfl, rfl, rfl, Or.inr ⟨unspawned, rfl⟩, same _, same _, same _⟩
      · cases moved
  | _ =>
      right
      obtain rfl := Option.some.inj moved
      exact produces_of_same rfl rfl rfl rfl (same _) (same _) (same _)

/-! ## Invariants -/

/-- Every queue holds frames encoded for the connection. -/
structure Encoded (format : WireFormat) (wire : Wire) : Prop where
  live : Extends format wire.codec [] wire.out.live.sent
  replay : Extends format wire.codec [] wire.out.replay.sent
  urgent : Extends format wire.codec [] wire.out.urgent.sent

theorem Extends.trans {codec : Codec}
    {before between after : List ByteArray}
    (first : Extends format codec before between)
    (second : Extends format codec between after) :
    Extends format codec before after := by
  obtain ⟨frames, rfl⟩ := first
  obtain ⟨more, rfl⟩ := second
  exact ⟨frames ++ more, by simp⟩

theorem Encoded.step (encoded : wire.Encoded format)
    (agrees : wire.Agrees format)
    (moved : wire.step format action = some next) : next.Encoded format := by
  have sameCodec : next.codec = wire.codec := by rw [step_eq moved]; rfl
  rcases step_cases agrees moved with
    ⟨ok, shutdown, -, stepped⟩ | produces
  · have sent := (OutboundState.moves_of_step stepped).sent
    constructor
    · rw [sameCodec, sent.2]
      exact encoded.live
    · rw [sameCodec, sent.1]
      exact encoded.replay
    · rw [sameCodec, OutboundState.step_urgent_sent stepped]
      exact encoded.urgent
  · constructor
    · rw [sameCodec]
      exact encoded.live.trans produces.live
    · rw [sameCodec]
      exact encoded.replay.trans produces.replay
    · rw [sameCodec]
      exact encoded.urgent.trans produces.urgent

/-- The socket, split as in the outbound loop. -/
def Conserves (wire : Wire) (body ending : List (SocketFrame WsMessage)) :
    Prop :=
  OutboundState.Conserved (bytesToWsMsg wire.isBinary) wire.disconnectFrame
    wire.out body ending

theorem Conserves.step {body ending : List (SocketFrame WsMessage)}
    (conserves : wire.Conserves body ending) (agrees : wire.Agrees format)
    (succeeds : wire.WritesSucceed action)
    (moved : wire.step format action = some next) :
    ∃ body ending, next.Conserves body ending := by
  have sameFlags :
      next.isBinary = wire.isBinary ∧
        next.disconnectFrame = wire.disconnectFrame := by
    rw [step_eq moved]
    exact ⟨rfl, rfl⟩
  simp only [Conserves, sameFlags.1, sameFlags.2]
  rcases step_cases agrees moved with
    ⟨ok, shutdown, rfl, stepped⟩ | produces
  · obtain rfl : ok = true := succeeds
    exact OutboundState.Conserved.step conserves stepped
  · refine ⟨body, ending,
      OutboundState.Conserved.of_same conserves produces.socket
        produces.liveReceived produces.replayReceived ?_
        (fun _ queued => produces.urgent.isPrefix.subset queued)⟩
    rcases produces.pc with same | ⟨unspawned, isSelect⟩
    · rw [same]
    · rw [unspawned, isSelect]
      simp

theorem draining_step {taken : Wire}
    (draining : OutboundState.Draining taken.out wire.out)
    (agrees : wire.Agrees format) (succeeds : wire.WritesSucceed action)
    (moved : wire.step format action = some next) :
    OutboundState.Draining taken.out next.out := by
  rcases step_cases agrees moved with
    ⟨ok, shutdown, rfl, stepped⟩ | produces
  · obtain rfl : ok = true := succeeds
    exact draining.step stepped
  · rcases produces.pc with same | ⟨unspawned, -⟩
    · exact draining.of_same same produces.replay.isPrefix
        produces.live.isPrefix produces.replayReceived produces.liveReceived
        produces.socket
    · rcases draining.point with isPc | isPc | isPc <;>
      · rw [unspawned] at isPc
        cases isPc

end

/-! ## Runs -/

section Runs

variable {format : WireFormat} {env : Environment} {opened wire : Wire}

theorem agrees_of_reaches {allowed : Wire → WireAction → Prop}
    (run : Reaches (step format) allowed opened wire)
    (agrees : opened.Agrees format) : wire.Agrees format :=
  run.invariant (fun _ _ _ _ moved agrees => agrees.step moved) agrees

theorem codec_of_reaches {allowed : Wire → WireAction → Prop}
    (run : Reaches (step format) allowed opened wire) :
    wire.codec = opened.codec := by
  induction run with
  | refl =>
      rfl
  | tail before last ih =>
      obtain ⟨label, -, moved⟩ := last
      rw [step_eq moved]
      exact ih

/-- What holds of the queues and the socket of an encoded connection. -/
structure Sound (format : WireFormat) (wire : Wire) : Prop where
  agrees : wire.Agrees format
  encoded : wire.Encoded format
  conserved : ∃ body ending, wire.Conserves body ending

theorem sound_of_accept {header : Option String}
    (accepted : accept format env header = some opened) :
    opened.Sound format := by
  obtain ⟨wire, isWire, agrees, isOut⟩ := accept_agrees format env header
  obtain rfl : wire = opened := Option.some.inj (isWire.symm.trans accepted)
  refine ⟨agrees, ?_, [], [], ?_⟩
  · constructor <;>
    · rw [isOut]
      exact Extends.refl _ _
  · refine ⟨by rw [isOut]; rfl, ?_, fun _ => rfl, ?_⟩
    · rw [isOut]
      exact .nil
    · intro exited
      rw [isOut] at exited
      cases exited

theorem sound_of_reaches
    (run : Reaches (step format) WritesSucceed opened wire)
    (sound : opened.Sound format) : wire.Sound format :=
  run.invariant
    (fun _ _ _ succeeds moved sound => by
      obtain ⟨body, ending, conserves⟩ := sound.conserved
      exact ⟨sound.agrees.step moved, sound.encoded.step sound.agrees moved,
        conserves.step sound.agrees succeeds moved⟩)
    sound

theorem draining_of_reaches {taken : Wire}
    (chosen : taken.out.pc = .drainReplay) (agrees : taken.Agrees format)
    (run : Reaches (step format) WritesSucceed taken wire) :
    OutboundState.Draining taken.out wire.out := by
  induction run with
  | refl =>
      exact OutboundState.draining_of_drainReplay chosen
  | tail before last ih =>
      obtain ⟨label, succeeds, moved⟩ := last
      exact draining_step ih
        (agrees_of_reaches before agrees) succeeds moved

/-! ## Conservation -/

/-- What may end the frames of a connection: the close frame of a shutdown, or
the disconnect frame of an eviction or of a replay task with the closing
handshake, or the handshake alone. -/
def IsEnding (format : WireFormat) (codec : Codec)
    (urgent : List ServerMessage) (ending : List (SocketFrame WsMessage)) :
    Prop :=
  ending = [] ∨ ending = [.goingAway] ∨ ending = [.closing] ∨
    ∃ frame,
      (frame = backpressureFrame ∨ frame ∈ urgent) ∧
        ending = [.data (wsMessage format codec frame), .closing]

/-- `live`, `replay` and `urgent` were enqueued, and of the first two
`liveTaken` and `replayTaken` were taken and written. -/
structure Delivered (format : WireFormat) (wire : Wire)
    (live replay urgent liveTaken replayTaken : List ServerMessage) :
    Prop where
  liveSent : wire.out.live.sent = live.map (wire.codec.encode format)
  replaySent : wire.out.replay.sent = replay.map (wire.codec.encode format)
  urgentSent : wire.out.urgent.sent = urgent.map (wire.codec.encode format)
  liveReceived :
    wire.out.live.received = liveTaken.map (wire.codec.encode format)
  replayReceived :
    wire.out.replay.received = replayTaken.map (wire.codec.encode format)
  livePrefix : liveTaken <+: live
  replayPrefix : replayTaken <+: replay
  socket :
    ∃ body ending,
      wire.out.socket = body ++ ending ∧
        Interleaves
          (liveTaken.map (fun frame =>
            .data (wsMessage format wire.codec frame)))
          (replayTaken.map (fun frame =>
            .data (wsMessage format wire.codec frame)))
          body ∧
        IsEnding format wire.codec urgent ending ∧
        (ending ≠ [] → wire.out.pc = .exited)

private theorem exists_taken {codec : Codec} {received : List ByteArray}
    {frames : List ServerMessage}
    (isPrefix : received <+: frames.map (codec.encode format)) :
    ∃ taken, taken <+: frames ∧ received = taken.map (codec.encode format) := by
  refine ⟨frames.take received.length, List.take_prefix _ _, ?_⟩
  rw [List.map_take]
  exact List.prefix_iff_eq_take.mp isPrefix

private theorem shown_encoded (agrees : wire.Agrees format)
    (frames : List ServerMessage) :
    OutboundState.shown (bytesToWsMsg wire.isBinary)
        (frames.map (wire.codec.encode format)) =
      frames.map (fun frame =>
        .data (wsMessage format wire.codec frame)) := by
  induction frames with
  | nil =>
      rfl
  | cons head tail ih =>
      rw [List.map_cons, List.map_cons, ← ih,
        OutboundState.shown, List.flatMap_cons, OutboundState.onSocket,
        bytesToWsMsg_encode format agrees.written]
      rfl

private theorem isEnding_of_ending {urgent : List ServerMessage}
    {ending : List (SocketFrame WsMessage)} (agrees : wire.Agrees format)
    (isEnding :
      OutboundState.Ending (bytesToWsMsg wire.isBinary) wire.disconnectFrame
        (urgent.map (wire.codec.encode format)) ending) :
    IsEnding format wire.codec urgent ending := by
  have last :
      ∀ frame,
        OutboundState.onSocket (bytesToWsMsg wire.isBinary)
            (wire.codec.encode format frame) ++ [.closing] =
          [.data (wsMessage format wire.codec frame), .closing] := by
    intro frame
    rw [OutboundState.onSocket, bytesToWsMsg_encode format agrees.written]
    rfl
  cases isEnding with
  | goingAway => exact Or.inr (Or.inl rfl)
  | closing => exact Or.inr (Or.inr (Or.inl rfl))
  | disconnect payload source =>
      refine Or.inr (Or.inr (Or.inr ?_))
      rcases source with rfl | queued
      · rw [agrees.disconnect]
        exact ⟨backpressureFrame, Or.inl rfl, last _⟩
      · obtain ⟨frame, member, rfl⟩ := List.mem_map.mp queued
        exact ⟨frame, Or.inr member, last frame⟩

theorem Sound.delivered (sound : wire.Sound format) :
    ∃ live replay urgent liveTaken replayTaken,
      Delivered format wire live replay urgent liveTaken replayTaken := by
  obtain ⟨live, isLive⟩ := sound.encoded.live
  obtain ⟨replay, isReplay⟩ := sound.encoded.replay
  obtain ⟨urgent, isUrgent⟩ := sound.encoded.urgent
  rw [List.nil_append] at isLive isReplay isUrgent
  obtain ⟨liveTaken, livePrefix, isLiveTaken⟩ :=
    exists_taken (isLive ▸ List.prefix_append _ _ :
      wire.out.live.received <+: live.map (wire.codec.encode format))
  obtain ⟨replayTaken, replayPrefix, isReplayTaken⟩ :=
    exists_taken (isReplay ▸ List.prefix_append _ _ :
      wire.out.replay.received <+: replay.map (wire.codec.encode format))
  obtain ⟨body, ending, conserves⟩ := sound.conserved
  refine ⟨live, replay, urgent, liveTaken, replayTaken, isLive, isReplay,
    isUrgent, isLiveTaken, isReplayTaken, livePrefix, replayPrefix, body,
    ending, conserves.socket, ?_, ?_, ?_⟩
  · have merged := conserves.merged
    rw [isLiveTaken, isReplayTaken, shown_encoded sound.agrees,
      shown_encoded sound.agrees] at merged
    exact merged
  · by_cases exited : wire.out.pc = .exited
    · have isEnding := conserves.ended exited
      rw [isUrgent] at isEnding
      exact isEnding_of_ending sound.agrees isEnding
    · exact Or.inl (conserves.running exited)
  · intro notEmpty
    by_contra running
    exact notEmpty (conserves.running running)

/-- Every frame of a connection is encoded in the negotiated codec, so that the
outbound task can write it.  On a socket that accepts every write, the frames of
each queue are written in order and without loss, up to the ending of the
connection, and a shutdown first writes what was queued when it was noticed. -/
theorem frames_conserved (format : WireFormat) (env : Environment)
    (header : Option String) :
    ∃ opened, accept format env header = some opened ∧
      codecForProtocol (upgradeProtocol header) = some opened.codec ∧
      ∀ wire, Reaches (step format) WritesSucceed opened wire →
        wire.codec = opened.codec ∧
          (∀ payload,
            payload ∈ wire.out.live.sent ++ wire.out.replay.sent ++
                wire.out.urgent.sent →
              (bytesToWsMsg wire.isBinary payload).isSome) ∧
          (∃ live replay urgent liveTaken replayTaken,
            Delivered format wire live replay urgent liveTaken replayTaken) ∧
          ∀ taken,
            Reaches (step format) WritesSucceed opened taken →
            taken.out.pc = .drainReplay →
            Reaches (step format) WritesSucceed taken wire →
            wire.out.pc = .exited →
              taken.out.live.sent <+: wire.out.live.received ∧
                taken.out.replay.sent <+: wire.out.replay.received ∧
                .goingAway ∈ wire.out.socket := by
  obtain ⟨opened, accepted, agrees, -⟩ := accept_agrees format env header
  have isCodec :
      codecForProtocol (upgradeProtocol header) = some opened.codec := by
    obtain ⟨codec, chosen, isOpened⟩ := Option.map_eq_some_iff.mp accepted
    rw [chosen, ← isOpened]
  refine ⟨opened, accepted, isCodec, ?_⟩
  intro wire run
  have sound := sound_of_reaches run (sound_of_accept accepted)
  refine ⟨?_, ?_, sound.delivered, ?_⟩
  · exact codec_of_reaches run
  · intro payload member
    obtain ⟨live, replay, urgent, liveTaken, replayTaken, delivered⟩ :=
      sound.delivered
    rw [delivered.liveSent, delivered.replaySent, delivered.urgentSent,
      ← List.map_append, ← List.map_append] at member
    obtain ⟨frame, -, rfl⟩ := List.mem_map.mp member
    rw [bytesToWsMsg_encode format sound.agrees.written]
    rfl
  · intro taken toTaken chosen toWire exited
    have draining :=
      draining_of_reaches chosen (agrees_of_reaches toTaken agrees) toWire
    exact ⟨draining.liveDone exited,
      draining.replayDone (by simp [exited]), draining.closed exited⟩

end Runs

end Wire

end TurbocableServer.Connection
