import CloudP2P.Rpc.Threads

/-!
# What is left to do

The threads of the library only ever hand a packet on, so what is left to do
can be counted: each place that a packet passes through weighs less than the
one before it.  Steps of the library and ends of methods are therefore
finitely many, whatever the two ends are doing.
-/

universe u

namespace CloudP2P.Rpc

/-! ## Weights -/

/-- The way of a packet from `send` to `recv` and on. -/
def SlotType.travel : SlotType → Nat
  | .request => 12
  | .response => 4

def Frame.travel (packet : Frame) : Nat := packet.slot.getType.travel

def travel (packets : List Frame) : Nat := (packets.map Frame.travel).sum

def CallState.weight : CallState → Nat
  | .popping => 15
  | .sending _ => 14
  | .awaiting _ | .returning _ _ => 1
  | .returned _ | .timedOut | .abandoned _ => 0

def Call.weight (call : Call) : Nat := call.state.weight

def SlotChannel.weight : SlotChannel → Nat
  | .full _ => 1
  | .empty | .closed => 0

def ReceiverState.weight : ReceiverState → Nat
  | .running => 1
  | .ended | .panicked => 0

def Client.weight (client : Client) : Nat :=
  (client.calls.map Call.weight).sum +
    (client.slotChannels.map SlotChannel.weight).sum +
    client.receiver.weight

def MultiplexerState.weight : MultiplexerState → Nat
  | .forwarding packet => packet.travel - 1
  | .failing => 4
  | .failingResponse => 2
  | .receiving | .ended | .panicked => 0

/-- What a channel holds, for the thread that reads it. -/
def itemWeight (packet : Nat) : Option Item → Nat
  | some (.packet _) => packet
  | some .failure => 1
  | none => 0

def Multiplexer.weight (multiplexer : Multiplexer) : Nat :=
  travel multiplexer.incoming + multiplexer.state.weight +
    itemWeight 10 multiplexer.requestChannel +
    itemWeight 2 multiplexer.responseChannel

def Task.weight {Object : Type u} (task : Task Object) : Nat :=
  match task.state with
  | .queued => 9
  | .destroying => 8
  | .deleting | .running _ => 7
  | .responding _ => 6
  | .accounting _ => 1
  | .finished _ | .panicked => 0

def ServerState.weight : ServerState → Nat
  | .receiving => 1
  | .draining | .ended | .panicked => 0

def Server.weight {Object : Type u} (server : Server Object) : Nat :=
  (server.tasks.map Task.weight).sum + server.state.weight +
    server.registry.registering.length

def End.weight {Object : Type u} (context : End Object) : Nat :=
  context.client.weight + context.multiplexer.weight +
    context.server.weight

def Connection.weight {Object : Type u} (connection : Connection Object) :
    Nat :=
  (connection.ends .left).weight + (connection.ends .right).weight

/-! ## Steps of the library -/

/-- The next step of a call. -/
def ClientEvent.Proceeds : ClientEvent → Prop
  | .pop _ | .send _ .sent | .takeResponse _ | .release _ => True
  | _ => False

def ServerEvent.Proceeds {Object : Type u} : ServerEvent Object → Prop
  | .start _ | .destroyed _ | .finishDelete _ | .finish _ _
  | .respond _ .sent | .account _ | .insert _ => True
  | _ => False

def MultiplexerEvent.Proceeds : MultiplexerEvent → Prop
  | .deliver _ | .forward => True
  | .fail => False

/-- A step of the library, or the end of a method or a destructor. -/
def EndEvent.Proceeds {Object : Type u} : EndEvent Object → Prop
  | .client event => event.Proceeds
  | .server event => event.Proceeds
  | .multiplexer event => event.Proceeds
  | .clientReceive | .serverReceive => True

/-- Nobody calls anything, and nothing fails. -/
def Proceeds {Object : Type u} (_connection : Connection Object)
    (event : ConnectionEvent Object) : Prop :=
  event.event.Proceeds

section Decreasing

variable {Object : Type u} {config : Config}

@[simp]
theorem travel_nil : travel [] = 0 := rfl

@[simp]
theorem travel_singleton (packet : Frame) :
    travel [packet] = packet.travel := by
  simp [travel]

theorem travel_append (left right : List Frame) :
    travel (left ++ right) = travel left + travel right := by
  simp [travel]

theorem travel_of_type {packet : Frame} {type : SlotType}
    (same : packet.slot.getType = type) : packet.travel = type.travel := by
  rw [Frame.travel, same]

theorem Frame.travel_ge (packet : Frame) : 4 ≤ packet.travel := by
  unfold Frame.travel
  cases packet.slot.getType <;> decide

theorem travel_eraseIdx {packets : List Frame} {index : Nat}
    {packet : Frame} (found : packets[index]? = some packet) :
    travel (packets.eraseIdx index) + packet.travel = travel packets := by
  have sums := ((cons_eraseIdx_perm found).map Frame.travel).sum_eq
  rw [List.map_cons, List.sum_cons] at sums
  unfold travel
  omega

private theorem sum_set_closed_le (channels : List SlotChannel)
    (index : Nat) :
    ((channels.set index .closed).map SlotChannel.weight).sum ≤
      (channels.map SlotChannel.weight).sum := by
  cases found : channels[index]? with
  | none =>
      rw [List.set_eq_of_length_le (List.getElem?_eq_none_iff.mp found)]
  | some before =>
      have changed := sum_map_set_add SlotChannel.weight found .closed
      simp only [SlotChannel.weight] at changed
      omega

theorem Client.Moves.weight_lt
    {client : Client} {event : ClientEvent}
    {result : Client × List Frame}
    (moves : client.Moves config event result)
    (proceeds : event.Proceeds) :
    result.1.weight + travel result.2 < client.weight := by
  cases moves with
  | pop index request slot rest found front =>
      have changed :=
        sum_map_set_add Call.weight found ⟨request, .sending slot⟩
      simp only [Call.weight, CallState.weight] at changed
      simp only [Client.weight, Client.setCall, travel_nil]
      omega
  | send index request packet slot found written =>
      have changed :=
        sum_map_set_add Call.weight found ⟨request, .awaiting slot⟩
      have far :=
        travel_of_type (Frame.sentUnder_of_addressed written).type
      simp only [Call.weight, CallState.weight] at changed
      simp only [SlotType.travel] at far
      simp only [Client.weight, Client.setCall, travel_singleton, far]
      omega
  | sendPanics index request slot outcome found refused =>
      have changed :=
        sum_map_set_add Call.weight found ⟨request, .abandoned slot⟩
      have closed :=
        sum_set_closed_le client.slotChannels slot.asUsize
      simp only [Call.weight, CallState.weight] at changed
      simp only [Client.weight, Client.abandon, travel_nil]
      omega
  | takeResponse index request response slot found arrived =>
      have changed :=
        sum_map_set_add Call.weight found ⟨request, .returning slot response⟩
      have taken :=
        sum_map_set_add SlotChannel.weight arrived SlotChannel.empty
      simp only [Call.weight, CallState.weight] at changed
      simp only [SlotChannel.weight] at taken
      simp only [Client.weight, Client.setCall, travel_nil]
      omega
  | release index request response slot found room =>
      have changed :=
        sum_map_set_add Call.weight found ⟨request, .returned response⟩
      simp only [Call.weight, CallState.weight] at changed
      simp only [Client.weight, Client.setCall, travel_nil]
      omega
  | invoke | timeOut | disconnect =>
      exact proceeds.elim
  | sendFails index request packet slot outcome found written fails =>
      cases outcome with
      | sent =>
          exact absurd rfl fails
      | failed | failedAfterDelivery =>
          exact proceeds.elim

theorem Client.weight_receive_le
    {client next : Client} {packet : Frame}
    (received : client.receive packet = some next) :
    next.weight ≤ client.weight + 1 := by
  simp only [Client.receive] at received
  split at received
  · rename_i empty
    cases received
    have filled :=
      sum_map_set_add SlotChannel.weight empty (.full packet)
    simp only [SlotChannel.weight] at filled
    simp only [Client.weight]
    omega
  · cases received
  all_goals
    cases received
    simp only [Client.weight, ReceiverState.weight]
    omega

theorem Multiplexer.Moves.weight_lt
    {multiplexer target : Multiplexer}
    {serverListens clientListens : Bool} {event : MultiplexerEvent}
    (moves :
      multiplexer.Moves serverListens clientListens event target)
    (proceeds : event.Proceeds) : target.weight < multiplexer.weight := by
  cases moves with
  | deliver index packet receiving found =>
      have removed := travel_eraseIdx found
      have far := packet.travel_ge
      simp only [Multiplexer.weight, MultiplexerState.weight, receiving]
      omega
  | fail receiving =>
      exact proceeds.elim
  | forwardRequest packet holds type listens room =>
      have far := travel_of_type type
      simp only [SlotType.travel] at far
      simp only [Multiplexer.weight, MultiplexerState.weight, holds, room,
        itemWeight, far]
      omega
  | forwardResponse packet holds type listens room =>
      have far := travel_of_type type
      simp only [SlotType.travel] at far
      simp only [Multiplexer.weight, MultiplexerState.weight, holds, room,
        itemWeight, far]
      omega
  | forwardPanics packet holds deaf =>
      have far := packet.travel_ge
      simp only [Multiplexer.weight, MultiplexerState.weight, holds]
      omega
  | tellServer failing listens room =>
      simp only [Multiplexer.weight, MultiplexerState.weight, failing, room,
        itemWeight]
      omega
  | tellClient failing listens room =>
      simp only [Multiplexer.weight, MultiplexerState.weight, failing, room,
        itemWeight]
      omega
  | tellPanics deaf =>
      rcases deaf with ⟨failing, _⟩ | ⟨failing, _⟩ <;>
        simp only [Multiplexer.weight, MultiplexerState.weight, failing] <;>
        omega

theorem Server.Moves.weight_lt
    {server : Server Object} {event : ServerEvent Object}
    {result : Server Object × List Frame}
    (moves : server.Moves config event result)
    (proceeds : event.Proceeds) :
    result.1.weight + travel result.2 < server.weight := by
  cases moves with
  | startDelete index request registry found free delete removed =>
      have changed :=
        sum_map_set_add Task.weight found ⟨request, .destroying⟩
      simp only [Task.weight] at changed
      simp only [Server.weight, Server.setTask, travel_nil,
        ServiceForwarder.registering_of_delete (Or.inl removed)]
      omega
  | startCall index request object found free call registered =>
      have changed :=
        sum_map_set_add Task.weight found ⟨request, .running object⟩
      simp only [Task.weight] at changed
      simp only [Server.weight, Server.setTask, travel_nil]
      omega
  | startPanics index request found free unknown =>
      have changed := sum_map_set_add Task.weight found ⟨request, .panicked⟩
      simp only [Task.weight] at changed
      simp only [Server.weight, Server.setTask, travel_nil]
      omega
  | destroyed index request found =>
      have changed := sum_map_set_add Task.weight found ⟨request, .deleting⟩
      simp only [Task.weight] at changed
      simp only [Server.weight, Server.setTask, travel_nil]
      omega
  | finishDelete index request registry found pushed =>
      have changed :=
        sum_map_set_add Task.weight found ⟨request, .responding []⟩
      simp only [Task.weight] at changed
      simp only [Server.weight, Server.setTask, travel_nil,
        ServiceForwarder.registering_of_delete (Or.inr pushed)]
      omega
  | finish index request object value found =>
      have changed :=
        sum_map_set_add Task.weight found ⟨request, .responding value⟩
      simp only [Task.weight] at changed
      simp only [Server.weight, Server.setTask, travel_nil]
      omega
  | insert index registry inserted unlocked =>
      have fewer :=
        ServiceForwarder.length_registering_of_insert inserted
      simp only [Server.weight, travel_nil]
      omega
  | respond index request packet value outcome found written =>
      have changed :=
        sum_map_set_add Task.weight found ⟨request, .accounting value⟩
      have far := travel_of_type (Frame.answers_of_answered written).type
      simp only [Task.weight] at changed
      simp only [SlotType.travel] at far
      cases outcome with
      | sent =>
          simp only [Server.weight, Server.setTask, SendOutcome.packets,
            travel_singleton, far]
          omega
      | failed | failedAfterDelivery =>
          exact proceeds.elim
  | respondPanics index request value outcome found refused =>
      have changed := sum_map_set_add Task.weight found ⟨request, .panicked⟩
      simp only [Task.weight] at changed
      simp only [Server.weight, Server.setTask, travel_nil]
      omega
  | account index request value found =>
      have changed :=
        sum_map_set_add Task.weight found ⟨request, .finished value⟩
      simp only [Task.weight] at changed
      simp only [Server.weight, Server.setTask, travel_nil]
      omega
  | crash | crashDelete | drained | popFront | clear =>
      exact proceeds.elim

/-- The packets that a step sends weigh less than what it uses up. -/
theorem End.Moves.weight_lt
    {context : End Object} {event : EndEvent Object}
    {result : End Object × List Frame}
    (moves : context.Moves config event result)
    (proceeds : event.Proceeds) :
    result.1.weight + travel result.2 < context.weight := by
  cases moves with
  | client event result moves =>
      have less := moves.weight_lt proceeds
      simp only [End.weight]
      omega
  | server event result moves =>
      have less := moves.weight_lt proceeds
      simp only [End.weight]
      omega
  | multiplexer event multiplexer moves =>
      have less := moves.weight_lt proceeds
      simp only [End.weight, travel_nil]
      omega
  | clientPacket packet client running waiting received =>
      have atMost := Client.weight_receive_le received
      simp only [End.weight, Multiplexer.weight, End.setResponseChannel,
        waiting, itemWeight, travel_nil]
      omega
  | clientFailure running told =>
      simp only [End.weight, Multiplexer.weight, End.setResponseChannel,
        told, itemWeight, travel_nil, Client.weight, running,
        ReceiverState.weight]
      omega
  | clientPanics running nothing gone =>
      simp only [End.weight, travel_nil, Client.weight, running,
        ReceiverState.weight]
      omega
  | serverPacket packet receiving waiting =>
      simp only [End.weight, Multiplexer.weight, End.setRequestChannel,
        waiting, itemWeight, travel_nil, Server.weight, Server.receive,
        List.map_append, List.sum_append, List.map_cons, List.map_nil,
        List.sum_cons, List.sum_nil, Task.weight]
      omega
  | serverFailure receiving told =>
      simp only [End.weight, Multiplexer.weight, End.setRequestChannel,
        told, itemWeight, travel_nil, Server.weight, receiving,
        ServerState.weight]
      omega
  | serverPanics receiving nothing gone =>
      simp only [End.weight, travel_nil, Server.weight, receiving,
        ServerState.weight]
      omega

theorem End.weight_deposit (context : End Object) (packets : List Frame) :
    (context.deposit packets).weight = context.weight + travel packets := by
  simp only [End.weight, End.deposit, Multiplexer.weight, travel_append]
  omega

variable {configs : Side → Config}

theorem Connection.weight_eq (connection : Connection Object)
    (side : Side) :
    connection.weight =
      (connection.ends side).weight +
        (connection.ends side.other).weight := by
  cases side with
  | left =>
      rfl
  | right =>
      exact Nat.add_comm _ _

/-- Every step that proceeds uses something up. -/
theorem Connection.weight_lt
    {source target : Connection Object} {event : ConnectionEvent Object}
    (proceeds : Proceeds source event)
    (stepped :
      (connectionSystem Object configs).step source event = some target) :
    target.weight < source.weight := by
  obtain ⟨packets, taken⟩ := Connection.stepsTo_of_step stepped
  have less :
      (target.ends event.side).weight + travel packets <
        (source.ends event.side).weight :=
    taken.moves.weight_lt proceeds
  rw [source.weight_eq event.side, target.weight_eq event.side,
    taken.deposited, End.weight_deposit]
  omega

/-- From any state, at most `weight` steps of the library and ends of methods
can follow each other. -/
theorem proceeding_runs_are_bounded
    {source target : Connection Object}
    {events : List (ConnectionEvent Object)}
    (replay :
      (connectionSystem Object configs).run source events = some target)
    (proceeding : ∀ event ∈ events, event.event.Proceeds) :
    events.length + target.weight ≤ source.weight := by
  refine
    TransitionSystem.length_add_le_of_decreases Connection.weight
      (fun source event target proceeds stepped =>
        Connection.weight_lt proceeds stepped) replay ?_
  intro earlier event later split middle _
  refine proceeding event ?_
  rw [split]
  exact List.mem_append_right _ List.mem_cons_self

end Decreasing

theorem proceeding_runs_are_bounded_answeredConnection :
    [(⟨.left, .client (.release 0)⟩ : ConnectionEvent Nat),
          ⟨.right, .server (.account 0)⟩].length +
        (((connectionSystem Nat fun _ => smallConfig).run answeredConnection
          [⟨.left, .client (.release 0)⟩,
            ⟨.right, .server (.account 0)⟩]).get (by decide)).weight ≤
      answeredConnection.weight :=
  proceeding_runs_are_bounded (Option.some_get _).symm (by
    simp [EndEvent.Proceeds, ClientEvent.Proceeds, ServerEvent.Proceeds])

end CloudP2P.Rpc
