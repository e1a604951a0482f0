import TurbocableServer.Gateway.Resumption

/-!
# A client that resumes by its highest sequence

A client follows one stream over successive connections of a node.  On each it
sends hello with the highest sequence it has received so far and then
Subscribe, and it may leave at any point.  If on each of its connections no live
frame of the stream is written before the confirmation, it misses nothing.
-/

namespace TurbocableServer.Gateway

open Foundations Protocol Pubsub Connection

/-- What the client has sent on its connection. -/
inductive LinkStage where
  | connected
  | greeted
  | subscribed
  deriving DecidableEq, Repr

/-- The connection the client uses, with the number of frames it has read. -/
structure Link where
  conn : ConnId
  stage : LinkStage
  read : Nat
  deriving DecidableEq, Repr

/-- `received` are the sequences of the stream the client has received on all
its connections, and `top` is the highest of them. -/
structure ResumingClient where
  link : Option Link
  received : List Nat
  top : Nat
  deriving DecidableEq, Repr

/-- The client reads a frame. -/
def ResumingClient.take (stream : String) (client : ResumingClient) :
    SocketFrame ServerMessage → ResumingClient
  | .data message =>
      match messageSeq stream message with
      | some seq =>
          { client with
            received := client.received ++ [seq]
            top := max client.top seq }
      | none => client
  | _ => client

/-- A node and one client of it. -/
structure Resumption where
  node : Node
  client : ResumingClient

/-- A move of the node, of which the other clients are a part, or one of the
client. -/
inductive ResumptionAction where
  | node (action : NodeAction)
  | connect (conn : ConnId) (ctx : ConnContext)
  | hello (capabilities : List String)
  | subscribe
  | receive

namespace Resumption

/-- The client has received everything up to `position`. -/
def initial (env : Environment) (log : MessageLog) (cursor position : Nat) :
    Resumption where
  node := Node.initial env log cursor
  client := ⟨none, [], position⟩

/-- A frame on the connection of the client, which only the client sends. -/
def ownFrame (client : ResumingClient) : NodeAction → Bool
  | .frame conn _ =>
      match client.link with
      | some link => link.conn == conn
      | none => false
  | _ => false

/-- The frame the client reads next. -/
def incoming (state : Resumption) : Option (SocketFrame ServerMessage) :=
  match state.client.link with
  | some link => (state.node.sessions link.conn).out.socket[link.read]?
  | none => none

/-- The client sends a frame and comes to the given stage. -/
def send (env : Environment) (state : Resumption) (link : Link)
    (frame : ClientFrame) (stage : LinkStage) : Option Resumption :=
  (state.node.step env (.frame link.conn (some frame))).map (fun node =>
    ⟨node, { state.client with link := some { link with stage := stage } }⟩)

def step (env : Environment) (stream : String) (state : Resumption) :
    ResumptionAction → Option Resumption
  | .node action =>
      if ownFrame state.client action then
        none
      else
        (state.node.step env action).map (fun node => ⟨node, state.client⟩)
  | .connect conn ctx =>
      (state.node.step env (.accept conn ctx)).map (fun node =>
        ⟨node, { state.client with link := some ⟨conn, .connected, 0⟩ }⟩)
  | .hello capabilities =>
      match state.client.link with
      | some ⟨conn, .connected, read⟩ =>
          send env state ⟨conn, .connected, read⟩
            (.hello ⟨some state.client.top, capabilities⟩) .greeted
      | _ => none
  | .subscribe =>
      match state.client.link with
      | some ⟨conn, .greeted, read⟩ =>
          send env state ⟨conn, .greeted, read⟩
            (.command (.subscribe stream)) .subscribed
      | _ => none
  | .receive =>
      match state.client.link, state.incoming with
      | some link, some frame =>
          some ⟨state.node,
            { state.client.take stream frame with
              link := some { link with read := link.read + 1 } }⟩
      | _, _ => none

/-- The moves of a node and a client. -/
inductive Steps (env : Environment) (stream : String) (state : Resumption) :
    ResumptionAction → Resumption → Prop
  | node (action : NodeAction) (node : Node) :
      ownFrame state.client action = false →
      state.node.step env action = some node →
      Steps env stream state (.node action) ⟨node, state.client⟩
  | connect (conn : ConnId) (ctx : ConnContext) (node : Node) :
      state.node.step env (.accept conn ctx) = some node →
      Steps env stream state (.connect conn ctx)
        ⟨node, { state.client with link := some ⟨conn, .connected, 0⟩ }⟩
  | hello (capabilities : List String) (conn : ConnId) (read : Nat)
      (node : Node) :
      state.client.link = some ⟨conn, .connected, read⟩ →
      state.node.step env
          (.frame conn
            (some (.hello ⟨some state.client.top, capabilities⟩))) =
        some node →
      Steps env stream state (.hello capabilities)
        ⟨node, { state.client with link := some ⟨conn, .greeted, read⟩ }⟩
  | subscribe (conn : ConnId) (read : Nat) (node : Node) :
      state.client.link = some ⟨conn, .greeted, read⟩ →
      state.node.step env
          (.frame conn (some (.command (.subscribe stream)))) = some node →
      Steps env stream state .subscribe
        ⟨node, { state.client with link := some ⟨conn, .subscribed, read⟩ }⟩
  | receive (link : Link) (frame : SocketFrame ServerMessage) :
      state.client.link = some link →
      (state.node.sessions link.conn).out.socket[link.read]? = some frame →
      Steps env stream state .receive
        ⟨state.node,
          { state.client.take stream frame with
            link := some { link with read := link.read + 1 } }⟩

section

variable {env : Environment} {stream : String} {state next : Resumption}
variable {action : ResumptionAction}

theorem steps_of_step (moved : state.step env stream action = some next) :
    Steps env stream state action next := by
  cases action with
  | node action =>
      simp only [step] at moved
      split at moved
      · cases moved
      · rename_i notOwn
        obtain ⟨node, stepped, rfl⟩ := Option.map_eq_some_iff.mp moved
        exact .node action node (by simpa using notOwn) stepped
  | connect conn ctx =>
      obtain ⟨node, stepped, rfl⟩ := Option.map_eq_some_iff.mp moved
      exact .connect conn ctx node stepped
  | hello capabilities =>
      simp only [step] at moved
      split at moved
      · rename_i conn read linked
        obtain ⟨node, stepped, rfl⟩ := Option.map_eq_some_iff.mp moved
        exact .hello capabilities conn read node linked stepped
      · cases moved
  | subscribe =>
      simp only [step] at moved
      split at moved
      · rename_i conn read linked
        obtain ⟨node, stepped, rfl⟩ := Option.map_eq_some_iff.mp moved
        exact .subscribe conn read node linked stepped
      · cases moved
  | receive =>
      simp only [step] at moved
      split at moved
      · rename_i link frame linked isNext
        obtain rfl := Option.some.inj moved
        refine .receive link frame linked ?_
        simpa [incoming, linked] using isNext
      · cases moved

end

/-! ## Conditions on steps -/

/-- A condition on the connection the client uses. -/
def OnLink (state : Resumption) (holds : ConnId → Prop) : Prop :=
  ∀ link, link ∈ state.client.link → holds link.conn

instance (state : Resumption) (holds : ConnId → Prop) [DecidablePred holds] :
    Decidable (state.OnLink holds) :=
  inferInstanceAs (Decidable (∀ link, link ∈ state.client.link → _))

/-- The durable consumer hands out every message once and in the order of the
log, the rate limiter drops nothing, and JetStream answers the replays of the
client without error, from everything that was stored. -/
def Reliable (stream : String) (state : Resumption) :
    ResumptionAction → Prop
  | .node action =>
      Node.seeks action = false ∧ Node.dropsMessage action = false ∧
        state.OnLink (fun conn =>
          Node.faithfulReplay conn stream state.node.log state.node action =
            true)
  | _ => True

instance (stream : String) (state : Resumption) :
    ∀ action, Decidable (Reliable stream state action)
  | .node action =>
      inferInstanceAs (Decidable (_ ∧ _ ∧ state.OnLink (fun conn =>
        Node.faithfulReplay conn stream state.node.log state.node action =
          true)))
  | .connect _ _ => inferInstanceAs (Decidable True)
  | .hello _ => inferInstanceAs (Decidable True)
  | .subscribe => inferInstanceAs (Decidable True)
  | .receive => inferInstanceAs (Decidable True)

/-- On the connection the client uses, a live frame of the stream is written
only after the confirmation. -/
def ConfirmsFirst (env : Environment) (stream : String)
    (state : Resumption) : ResumptionAction → Prop
  | .node action =>
      state.OnLink (fun conn =>
        Node.LiveAfterConfirm env conn stream state.node action)
  | _ => True

instance (env : Environment) (stream : String) (state : Resumption) :
    ∀ action, Decidable (ConfirmsFirst env stream state action)
  | .node action =>
      inferInstanceAs (Decidable (state.OnLink (fun conn =>
        Node.LiveAfterConfirm env conn stream state.node action)))
  | .connect _ _ => inferInstanceAs (Decidable True)
  | .hello _ => inferInstanceAs (Decidable True)
  | .subscribe => inferInstanceAs (Decidable True)
  | .receive => inferInstanceAs (Decidable True)

/-! ## The invariant -/

/-- The client has received every message of the stream from `position` on up
to the highest sequence it has received. -/
def Complete (stream : String) (position : Nat) (state : Resumption) : Prop :=
  CompleteTo state.node.log stream position state.client.top
    state.client.received

/-- The connection the client uses, on which it resumes after `since`. -/
structure Linked (env : Environment) (stream : String) (position since : Nat)
    (state : Resumption) (link : Link) : Prop where
  resumed : Node.Resumed env link.conn stream since state.node
  awaiting :
    link.stage ≠ .subscribed → Node.Awaiting link.conn stream state.node
  greeted :
    link.stage = .greeted →
      (state.node.sessions link.conn).inbound.lastSeq = some since
  withinSocket :
    link.read ≤ (state.node.sessions link.conn).out.socket.length
  known :
    ∀ seq,
      seq ∈ seqsOn stream
          ((state.node.sessions link.conn).out.socket.take link.read) →
        seq ∈ state.client.received
  sinceTop : since ≤ state.client.top
  complete :
    CompleteTo state.node.log stream position since state.client.received

structure Sound (env : Environment) (stream : String) (position : Nat)
    (state : Resumption) : Prop where
  complete : state.Complete stream position
  reached :
    state.client.top ≤ position ∨
      state.client.top ≤ state.node.log.lastSequence
  linked :
    ∀ link, state.client.link = some link →
      ∃ since, Linked env stream position since state link

section Runs

variable {env : Environment} {stream : String} {position since : Nat}
variable {state next : Resumption} {action : ResumptionAction}
variable {log : MessageLog} {cursor : Nat} {link : Link} {node : Node}

/-- A run of the node and the client is a run of the node. -/
theorem node_reaches {allowed : Resumption → ResumptionAction → Prop}
    (run : Reaches (step env stream) allowed (initial env log cursor position)
      state) :
    Reaches (Node.step env) (fun _ _ => True) (Node.initial env log cursor)
      state.node := by
  induction run with
  | refl =>
      exact Reaches.refl _
  | tail before last ih =>
      obtain ⟨label, -, moved⟩ := last
      cases steps_of_step moved with
      | node action node _ stepped | connect conn ctx node stepped
      | hello _ conn read node _ stepped | subscribe conn read node _ stepped =>
          exact ih.tail trivial stepped
      | receive link frame _ _ => exact ih

/-- What a step of the node keeps about what the client has received. -/
private theorem completeTo_step {bound : Nat} {label : NodeAction}
    {received : List Nat}
    (complete : CompleteTo state.node.log stream position bound received)
    (reached : bound ≤ position ∨ bound ≤ state.node.log.lastSequence)
    (moved : state.node.step env label = some node) :
    CompleteTo node.log stream position bound received := by
  rcases (Node.steps_of_step moved).logMove.log_cases with
    same | ⟨subject, payload, isPublish⟩
  · exact same ▸ complete
  · rw [isPublish]
    exact complete.publish reached subject payload

private theorem lastSequence_step {bound : Nat} {label : NodeAction}
    (reached : bound ≤ position ∨ bound ≤ state.node.log.lastSequence)
    (moved : state.node.step env label = some node) :
    bound ≤ position ∨ bound ≤ node.log.lastSequence := by
  refine reached.imp_right (fun inLog => Nat.le_trans inLog ?_)
  rcases (Node.steps_of_step moved).logMove.log_cases with
    same | ⟨subject, payload, isPublish⟩
  · rw [same]
  · rw [isPublish]
    exact state.node.log.lastSequence_le_publish ..

/-- What the client has read of a socket stays the same, and so does what it
knows of it. -/
private theorem Linked.kept {label : NodeAction}
    (linked : Linked env stream position since state link)
    (moved : state.node.step env label = some node) :
    link.read ≤ (node.sessions link.conn).out.socket.length ∧
      ∀ seq,
        seq ∈ seqsOn stream
            ((node.sessions link.conn).out.socket.take link.read) →
          seq ∈ state.client.received := by
  rcases (Node.steps_of_step moved).session_cases link.conn with
    same | ⟨move, -, stepped⟩
  · rw [same]
    exact ⟨linked.withinSocket, linked.known⟩
  · obtain ⟨added, extended⟩ := (Session.steps_of_step stepped).socket
    rw [← extended, List.length_append,
      List.take_append_of_le_length linked.withinSocket]
    exact ⟨Nat.le_trans linked.withinSocket (Nat.le_add_right _ _),
      linked.known⟩

private theorem Linked.complete_step {label : NodeAction}
    (linked : Linked env stream position since state link)
    (reached :
      state.client.top ≤ position ∨
        state.client.top ≤ state.node.log.lastSequence)
    (moved : state.node.step env label = some node) :
    CompleteTo node.log stream position since state.client.received :=
  completeTo_step linked.complete
    (reached.imp (Nat.le_trans linked.sinceTop)
      (Nat.le_trans linked.sinceTop)) moved

private theorem Linked.connect {conn : ConnId} {ctx : ConnContext}
    (run : Reaches (Node.step env) (fun _ _ => True)
      (Node.initial env log cursor) state.node)
    (moved : state.node.step env (.accept conn ctx) = some node) :
    Linked env stream position 0
      ⟨node, { state.client with link := some ⟨conn, .connected, 0⟩ }⟩
      ⟨conn, .connected, 0⟩ := by
  obtain ⟨awaiting, resumed⟩ := Node.resumed_of_accept run moved stream 0
  exact
    { resumed := resumed
      awaiting := fun _ => awaiting
      greeted := by simp
      withinSocket := Nat.zero_le _
      known := by simp [seqsOn, seqsIn, writtenOf]
      sinceTop := Nat.zero_le _
      complete := by
        intro message _ _ newer inBound
        omega }

section

variable
  (reached :
    state.client.top ≤ position ∨
      state.client.top ≤ state.node.log.lastSequence)
  (within : cursor ≤ log.messages.length)
  (run : Reaches (Node.step env) (fun _ _ => True)
    (Node.initial env log cursor) state.node)

include reached within run

/-- A step of the node that is not a frame of the client. -/
private theorem Linked.silent
    (linked : Linked env stream position since state link)
    {label : NodeAction} (silent : ∀ frame, label ≠ .frame link.conn frame)
    (inOrder : Node.seeks label = false)
    (unlimited : Node.dropsMessage label = false)
    (faithful : Node.faithfulReplay link.conn stream state.node.log state.node
      label = true)
    (ordered : Node.LiveAfterConfirm env link.conn stream state.node label)
    (moved : state.node.step env label = some node) :
    Linked env stream position since ⟨node, state.client⟩ link := by
  have steps := Node.steps_of_step moved
  have separated := (Node.regular_of_reaches run link.conn).separated
  obtain ⟨withinSocket, known⟩ := linked.kept moved
  exact
    { resumed :=
        linked.resumed.step within run
          (Node.scripted_of_silent linked.resumed.scripted silent steps)
          inOrder unlimited faithful ordered moved
      awaiting := by
        intro early
        have awaiting := linked.awaiting early
        exact awaiting.step separated
          (Node.unsubscribed_of_silent awaiting.unsubscribed silent steps).1
          ordered moved
      greeted := by
        intro isGreeted
        have awaiting := linked.awaiting (by simp [isGreeted])
        rw [(Node.unsubscribed_of_silent awaiting.unsubscribed silent
          steps).2]
        exact linked.greeted isGreeted
      withinSocket := withinSocket
      known := known
      sinceTop := linked.sinceTop
      complete := linked.complete_step reached moved }

/-- The client resumes after all it has received. -/
private theorem Linked.hello {conn : ConnId} {read : Nat}
    {capabilities : List String}
    (linked : Linked env stream position since state ⟨conn, .connected, read⟩)
    (complete : state.Complete stream position)
    (moved :
      state.node.step env
          (.frame conn
            (some (.hello ⟨some state.client.top, capabilities⟩))) =
        some node) :
    Linked env stream position state.client.top
      ⟨node, { state.client with link := some ⟨conn, .greeted, read⟩ }⟩
      ⟨conn, .greeted, read⟩ := by
  have awaiting := linked.awaiting (by simp)
  obtain ⟨resumed, awaitingNext, isLastSeq⟩ :=
    linked.resumed.hello awaiting within run rfl moved
  obtain ⟨withinSocket, known⟩ := linked.kept moved
  exact
    { resumed := resumed
      awaiting := fun _ => awaitingNext
      greeted := fun _ => isLastSeq
      withinSocket := withinSocket
      known := known
      sinceTop := Nat.le_refl _
      complete := completeTo_step complete reached moved }

private theorem Linked.subscribe {conn : ConnId} {read : Nat}
    (linked : Linked env stream position since state ⟨conn, .greeted, read⟩)
    (available : env.natsAvailable = true)
    (moved :
      state.node.step env
          (.frame conn (some (.command (.subscribe stream)))) = some node) :
    Linked env stream position since
      ⟨node, { state.client with link := some ⟨conn, .subscribed, read⟩ }⟩
      ⟨conn, .subscribed, read⟩ := by
  have awaiting := linked.awaiting (by simp)
  obtain ⟨withinSocket, known⟩ := linked.kept moved
  exact
    { resumed :=
        linked.resumed.frame within run
          (awaiting.unsubscribed.subscribe available (linked.greeted rfl)) moved
      awaiting := by simp
      greeted := by simp
      withinSocket := withinSocket
      known := known
      sinceTop := linked.sinceTop
      complete := linked.complete_step reached moved }

end

/-! ## Reading a frame -/

theorem take_cases (stream : String) (client : ResumingClient)
    (frame : SocketFrame ServerMessage) :
    (seqsOn stream [frame] = [] ∧ client.take stream frame = client) ∨
      ∃ seq,
        seqsOn stream [frame] = [seq] ∧
          client.take stream frame =
            { client with
              received := client.received ++ [seq]
              top := max client.top seq } := by
  cases frame with
  | data message =>
      cases isSeq : messageSeq stream message with
      | none =>
          exact Or.inl ⟨seqsOn_of_no_seq isSeq,
            by simp [ResumingClient.take, isSeq]⟩
      | some seq =>
          exact Or.inr ⟨seq, seqsOn_of_seq isSeq,
            by simp [ResumingClient.take, isSeq]⟩
  | goingAway | closing => exact Or.inl ⟨rfl, rfl⟩

/-- The sequences on a socket, split at the frame that is read. -/
private theorem seqsOn_split {socket : List (SocketFrame ServerMessage)}
    {read : Nat} {frame : SocketFrame ServerMessage}
    (present : socket[read]? = some frame) :
    read + 1 ≤ socket.length ∧
      seqsOn stream (socket.take (read + 1)) =
        seqsOn stream (socket.take read) ++ seqsOn stream [frame] ∧
      seqsOn stream socket =
        seqsOn stream (socket.take read) ++ seqsOn stream [frame] ++
          seqsOn stream (socket.drop (read + 1)) := by
  have isTake : socket.take (read + 1) = socket.take read ++ [frame] := by
    rw [List.take_add_one, present, Option.toList_some]
  have isSeqs :
      seqsOn stream (socket.take (read + 1)) =
        seqsOn stream (socket.take read) ++ seqsOn stream [frame] := by
    rw [isTake, seqsOn_append]
  refine ⟨(List.getElem?_eq_some_iff.mp present).1, isSeqs, ?_⟩
  rw [← isSeqs, ← seqsOn_append, List.take_append_drop]

/-- What the client knows about its connection after it has read a frame. -/
private theorem Linked.read
    (linked : Linked env stream position since state link)
    {frame : SocketFrame ServerMessage} {client : ResumingClient}
    (present :
      (state.node.sessions link.conn).out.socket[link.read]? = some frame)
    (isReceived :
      client.received = state.client.received ++ seqsOn stream [frame])
    (isTop : state.client.top ≤ client.top) :
    Linked env stream position since ⟨state.node, client⟩
      { link with read := link.read + 1 } := by
  obtain ⟨withinSocket, isTake, -⟩ := @seqsOn_split stream _ _ _ present
  exact
    { resumed := linked.resumed
      awaiting := linked.awaiting
      greeted := linked.greeted
      withinSocket := withinSocket
      known := by
        intro seq member
        rw [isTake] at member
        rw [isReceived]
        rcases List.mem_append.mp member with before | isNew
        · exact List.mem_append_left _ (linked.known seq before)
        · exact List.mem_append_right _ isNew
      sinceTop := Nat.le_trans linked.sinceTop isTop
      complete := by
        rw [isReceived]
        exact linked.complete.append _ }

theorem Sound.receive (sound : state.Sound env stream position)
    {frame : SocketFrame ServerMessage}
    (isLinked : state.client.link = some link)
    (present :
      (state.node.sessions link.conn).out.socket[link.read]? = some frame) :
    Sound env stream position
      ⟨state.node,
        { state.client.take stream frame with
          link := some { link with read := link.read + 1 } }⟩ := by
  obtain ⟨since, linked⟩ := sound.linked link isLinked
  obtain ⟨-, -, isSocket⟩ := @seqsOn_split stream _ _ _ present
  rcases take_cases stream state.client frame with
    ⟨noSeq, same⟩ | ⟨seq, isSeq, taken⟩
  · rw [same]
    refine ⟨sound.complete, sound.reached, ?_⟩
    intro other isOther
    obtain rfl := Option.some.inj isOther
    exact ⟨since, linked.read present (by simp [noSeq]) (Nat.le_refl _)⟩
  · rw [taken]
    -- The socket has no gap up to the frame that is read.
    have gapFree := linked.resumed.gapFree
    rw [isSocket, isSeq, List.append_assoc, List.singleton_append] at gapFree
    have upToSeq :=
      linked.complete.receive gapFree (fun earlier => linked.known earlier)
    have inLog := (gapFree _ _ _ rfl).1
    refine ⟨?_, ?_, ?_⟩
    · intro message member ofStream newer inBound
      by_cases old : message.seq ≤ state.client.top
      · exact List.mem_append_left _
          (sound.complete message member ofStream newer old)
      · exact upToSeq message member ofStream newer
          ((le_max_iff.mp inBound).resolve_left old)
    · rcases Nat.le_total state.client.top seq with higher | lower
      · exact Or.inr ((Nat.max_eq_right higher).trans_le inLog)
      · exact sound.reached.imp (Nat.max_eq_left lower).trans_le
          (Nat.max_eq_left lower).trans_le
    · intro other isOther
      obtain rfl := Option.some.inj isOther
      exact ⟨since, linked.read present (by simp [isSeq])
        (Nat.le_max_left _ _)⟩

/-! ## Runs -/

theorem ownFrame_eq_false {label : NodeAction}
    (notOwn : ownFrame state.client label = false)
    (isLinked : state.client.link = some link) (frame : Option ClientFrame) :
    label ≠ .frame link.conn frame := by
  rintro rfl
  simp [ownFrame, isLinked] at notOwn

/-- After a step of the node, only the connection of the client has to be
looked at. -/
private theorem Sound.of_node (sound : state.Sound env stream position)
    {label : NodeAction} (moved : state.node.step env label = some node)
    {used : Option Link}
    (linked :
      ∀ link, used = some link →
        ∃ since, Linked env stream position since
          ⟨node, { state.client with link := used }⟩ link) :
    Sound env stream position ⟨node, { state.client with link := used }⟩ :=
  ⟨completeTo_step sound.complete sound.reached moved,
    lastSequence_step sound.reached moved, linked⟩

theorem Sound.step (sound : state.Sound env stream position)
    (available : env.natsAvailable = true)
    (within : cursor ≤ log.messages.length)
    (run : Reaches (Node.step env) (fun _ _ => True)
      (Node.initial env log cursor) state.node)
    (reliable : Reliable stream state action)
    (ordered : ConfirmsFirst env stream state action)
    (moved : state.step env stream action = some next) :
    next.Sound env stream position := by
  cases steps_of_step moved with
  | node label node notOwn stepped =>
      apply sound.of_node stepped
      intro link isLinked
      obtain ⟨since, linked⟩ := sound.linked link isLinked
      exact ⟨since, linked.silent sound.reached within run
        (ownFrame_eq_false notOwn isLinked) reliable.1 reliable.2.1
        (reliable.2.2 link isLinked) (ordered link isLinked) stepped⟩
  | connect conn ctx node stepped =>
      apply sound.of_node stepped
      rintro link ⟨⟩
      exact ⟨0, Linked.connect run stepped⟩
  | hello capabilities conn read node isLinked stepped =>
      apply sound.of_node stepped
      rintro link ⟨⟩
      obtain ⟨since, linked⟩ := sound.linked _ isLinked
      exact ⟨_, linked.hello sound.reached within run sound.complete stepped⟩
  | subscribe conn read node isLinked stepped =>
      apply sound.of_node stepped
      rintro link ⟨⟩
      obtain ⟨since, linked⟩ := sound.linked _ isLinked
      exact ⟨since,
        linked.subscribe sound.reached within run available stepped⟩
  | receive link frame isLinked present =>
      exact sound.receive isLinked present

theorem sound_of_reaches (available : env.natsAvailable = true)
    (within : cursor ≤ log.messages.length)
    (run : Reaches (step env stream)
      (fun state action =>
        Reliable stream state action ∧ ConfirmsFirst env stream state action)
      (initial env log cursor position) state) :
    state.Sound env stream position := by
  induction run with
  | refl =>
      refine ⟨?_, Or.inl (Nat.le_refl position), ?_⟩
      · intro message _ _ newer inBound
        exact absurd newer (Nat.not_lt_of_le inBound)
      · intro link isLinked
        cases isLinked
  | tail before last ih =>
      obtain ⟨label, ⟨reliable, ordered⟩, moved⟩ := last
      exact ih.step available within (node_reaches before)
        reliable ordered moved

/-- If no live frame is written before the confirmation, the client has at any
time received everything up to its highest sequence, and so it has whenever it
reads a confirmation. -/
theorem resume_loses_nothing (available : env.natsAvailable = true)
    (within : cursor ≤ log.messages.length)
    (run : Reaches (step env stream)
      (fun state action =>
        Reliable stream state action ∧ ConfirmsFirst env stream state action)
      (initial env log cursor position) state) :
    state.Complete stream position :=
  (sound_of_reaches available within run).complete

end Runs

/-- The client connects, sends its position and subscribes, up to the point
where the replay task is to be started. -/
def newsLink (conn : ConnId) : List ResumptionAction :=
  [.connect conn ⟨false, ["*"], none⟩, .node (.advance conn),
    .node (.advance conn), .node (.effect conn true),
    .node (.effect conn true), .hello ["replay_v1"], .subscribe,
    .node (.effect conn true), .node (.advance conn), .node (.advance conn)]

/-- The first replay task of `conn` delivers the given messages and
confirms. -/
def newsReplay (conn : ConnId) (seqs : List Nat) : List ResumptionAction :=
  [.node (.effect conn true), .node (.replay conn 0 (.permit true)),
    .node (.replay conn 0 (.info none)),
    .node (.replay conn 0 (.opened none))] ++
  seqs.map (fun seq =>
    .node (.replay conn 0
      (.fetched (.message (some seq) ByteArray.empty)))) ++
  [.node (.replay conn 0 (.fetched .ended)), .node (.replay conn 0 .answer)]

/-- The outbound task moves, and the client reads what it has written. -/
def newsRead (conn : ConnId) (moves frames : Nat) : List ResumptionAction :=
  List.replicate moves (.node (.outbound conn true)) ++
    List.replicate frames .receive

/-- A first message is stored before the client connects, a second one is
fanned out before its replay starts, and nothing is written until the replay
has confirmed. -/
def patientResumption : Resumption :=
  (execute (step Node.newsEnv "news")
    (fun state action =>
      Reliable "news" state action ∧
        ConfirmsFirst Node.newsEnv "news" state action)
    (initial Node.newsEnv .empty 0 0)
    ([.node Node.newsPublish, .node (.fanNext true)] ++ newsLink 1 ++
      [.node Node.newsPublish] ++ Node.newsFanOut.map .node ++
      newsReplay 1 [1, 2] ++ newsRead 1 6 5)).get (by decide)

theorem resume_loses_nothing_patient :
    patientResumption.client.received = [1, 2, 2] ∧
      patientResumption.Complete "news" 0 :=
  ⟨by decide, resume_loses_nothing rfl (Nat.le_refl _) (reaches_execute_get _)⟩

/-- The second message is written and read before the replay starts, and the
client drops the connection.  It resumes after the second message, and the
replay has nothing to deliver. -/
def hastyResumption : Resumption :=
  (execute (step Node.newsEnv "news") (Reliable "news")
    (initial Node.newsEnv .empty 0 0)
    ([.node Node.newsPublish, .node (.fanNext true)] ++ newsLink 1 ++
      [.node Node.newsPublish] ++ Node.newsFanOut.map .node ++ newsRead 1 2 2 ++
      newsLink 2 ++ newsReplay 2 [] ++
      [.node (.outbound 2 true)])).get (by decide)

def hastyConfirmed : Resumption :=
  (hastyResumption.step Node.newsEnv "news" .receive).get (by decide)

theorem hasty_resume_loses_first :
    Reaches (step Node.newsEnv "news") (Reliable "news")
        (initial Node.newsEnv .empty 0 0) hastyResumption ∧
      hastyResumption.incoming = some (.data (.confirmSubscription "news")) ∧
      hastyResumption.step Node.newsEnv "news" .receive =
        some hastyConfirmed ∧
      hastyConfirmed.client.received = [2] ∧
      ¬ hastyConfirmed.Complete "news" 0 := by
  refine ⟨reaches_execute_get _, rfl, (Option.some_get _).symm, by decide, ?_⟩
  intro complete
  have first :
      ∃ message, message ∈ hastyConfirmed.node.log.messages ∧
        message.stream = "news" ∧ message.seq = 1 :=
    ⟨⟨1, subjectOf "news", ByteArray.empty⟩, by decide, by decide, rfl⟩
  obtain ⟨message, member, ofStream, isFirst⟩ := first
  have received :=
    complete message member ofStream (by rw [isFirst]; decide)
      (by rw [isFirst]; decide)
  rw [isFirst] at received
  exact absurd received (by decide)

end Resumption

end TurbocableServer.Gateway
