import CloudP2P.Rpc.Connection
import CloudP2P.Rpc.Exchange

/-!
# A connection is an exchange in each direction

The calls of one end, with all packets of theirs: in its own multiplexer and
its slot channels, in the multiplexer of the other end, and in the hands of
the threads that handle them there.

Seen like this, handing a packet from one place to the next is no step at
all, and every other step of a connection is a step of the exchange.
-/

universe u

namespace CloudP2P.Rpc

/-! ## Where packets are -/

namespace Multiplexer

/-- The packet between `recv` and the send to a channel. -/
def held (multiplexer : Multiplexer) : List Frame :=
  match multiplexer.state with
  | .forwarding packet => [packet]
  | _ => []

/-- The packets of a type that are in no channel yet. -/
def undelivered (multiplexer : Multiplexer) (type : SlotType) :
    Multiset Frame :=
  Multiset.filter (fun packet => packet.slot.getType = type)
    ((multiplexer.incoming ++ multiplexer.held : List Frame) :
      Multiset Frame)

end Multiplexer

/-- The packet in a channel. -/
def channelPackets : Option Item → Multiset Frame
  | some (.packet packet) => {packet}
  | some .failure | none => 0

@[simp]
theorem channelPackets_none : channelPackets none = 0 := rfl

namespace Multiplexer

def channel (multiplexer : Multiplexer) : SlotType → Option Item
  | .request => multiplexer.requestChannel
  | .response => multiplexer.responseChannel

/-- The packets of a type that nobody has received. -/
def packets (multiplexer : Multiplexer) (type : SlotType) :
    Multiset Frame :=
  multiplexer.undelivered type + channelPackets (multiplexer.channel type)

end Multiplexer

def SlotChannel.packet : SlotChannel → Option Frame
  | .full response => some response
  | .empty | .closed => none

/-- The responses that have reached their slots. -/
def Client.arrived (client : Client) : Multiset Frame :=
  (client.slotChannels.filterMap SlotChannel.packet : List Frame)

namespace Task

variable {Object : Type u}

/-- The request until the result is there, then the response until it is
sent. -/
def packet (task : Task Object) : Option Frame :=
  match task.state with
  | .queued | .destroying | .deleting | .running _ => some task.request
  | .responding result => task.request.answered result
  | .accounting _ | .finished _ | .panicked => none

def execution (task : Task Object) : Option (Content × Bytes) :=
  match task.state with
  | .responding result | .accounting result | .finished result =>
      some (task.request.content, result)
  | .queued | .destroying | .deleting | .running _ | .panicked => none

end Task

namespace Server

variable {Object : Type u} (server : Server Object)

def packets : Multiset Frame :=
  (server.tasks.filterMap Task.packet : List Frame)

def log : Multiset (Content × Bytes) :=
  (server.tasks.filterMap Task.execution : List (Content × Bytes))

end Server

/-- The calls of one end at the other. -/
def exchange {Object : Type u} (caller callee : End Object) : Exchange where
  free := caller.client.callSlots
  calls := caller.client.calls
  trail :=
    (callee.multiplexer.packets .request + callee.server.packets) +
      (caller.multiplexer.packets .response + caller.client.arrived)
  log := callee.server.log

/-! ## Packets where they belong -/

structure Multiplexer.Sorted (multiplexer : Multiplexer) : Prop where
  requests :
    ∀ packet, multiplexer.requestChannel = some (.packet packet) →
      packet.slot.getType = .request
  responses :
    ∀ packet, multiplexer.responseChannel = some (.packet packet) →
      packet.slot.getType = .response

/-- Every channel holds a response to its own slot. -/
def Client.Sorted (client : Client) : Prop :=
  ∀ (index : Nat) packet,
    client.slotChannels[index]? = some (.full packet) →
      packet.slot.getType = .response ∧ packet.slot.asUsize = index

def Server.Sorted {Object : Type u} (server : Server Object) : Prop :=
  ∀ task ∈ server.tasks, task.request.slot.getType = .request

/-- Requests go to the server and responses to their slots. -/
structure End.Sorted {Object : Type u} (context : End Object) : Prop where
  multiplexer : context.multiplexer.Sorted
  client : context.client.Sorted
  server : context.server.Sorted

section Sorting

variable {Object : Type u} {config : Config}

private theorem sorted_set_channel
    {client : Client} (sorted : client.Sorted) (index : Nat)
    {channel : SlotChannel} (notFull : channel.packet = none) :
    ∀ (other : Nat) packet,
      (client.slotChannels.set index channel)[other]? =
          some (.full packet) →
        packet.slot.getType = .response ∧
          packet.slot.asUsize = other := by
  intro other packet found
  by_cases same : index = other
  · subst same
    rw [← eq_of_getElem?_set_self found] at notFull
    cases notFull
  · rw [List.getElem?_set_ne same] at found
    exact sorted other packet found

theorem Client.Sorted.moves
    {client : Client} (sorted : client.Sorted) {event : ClientEvent}
    {result : Client × List Frame}
    (moves : client.Moves config event result) : result.1.Sorted := by
  cases moves with
  | invoke | pop | timeOut | send | release =>
      exact sorted
  | sendFails | sendPanics | disconnect | takeResponse =>
      exact sorted_set_channel sorted _ rfl

theorem Client.Sorted.receive
    {client next : Client} (sorted : client.Sorted) {packet : Frame}
    (type : packet.slot.getType = .response)
    (received : client.receive packet = some next) : next.Sorted := by
  simp only [Client.receive] at received
  split at received
  · cases received
    intro other found here
    by_cases same : packet.slot.asUsize = other
    · subst same
      cases eq_of_getElem?_set_self here
      exact ⟨type, rfl⟩
    · rw [List.getElem?_set_ne same] at here
      exact sorted other found here
  · cases received
  all_goals
    cases received
    exact sorted

private theorem sorted_set_task
    {server : Server Object} (sorted : server.Sorted) {index : Nat}
    {task next : Task Object} (found : server.tasks[index]? = some task)
    (same : next.request = task.request) :
    ∀ other ∈ server.tasks.set index next,
      other.request.slot.getType = .request := by
  intro other member
  rcases List.mem_or_eq_of_mem_set member with earlier | rfl
  · exact sorted other earlier
  · rw [same]
    exact sorted task (List.mem_of_getElem? found)

theorem Server.Sorted.moves
    {server : Server Object} (sorted : server.Sorted)
    {event : ServerEvent Object} {result : Server Object × List Frame}
    (moves : server.Moves config event result) : result.1.Sorted := by
  cases moves with
  | startDelete _ _ _ found | startCall _ _ _ found | startPanics _ _ found
  | destroyed _ _ found | finishDelete _ _ _ found | finish _ _ _ _ found
  | crash _ _ _ found | crashDelete _ _ found
  | respond _ _ _ _ _ found | respondPanics _ _ _ _ found
  | account _ _ _ found =>
      exact sorted_set_task sorted found rfl
  | drained | popFront | insert | clear =>
      exact sorted

theorem Server.Sorted.receive
    {server : Server Object} (sorted : server.Sorted) {packet : Frame}
    (type : packet.slot.getType = .request) :
    (server.receive packet).Sorted := by
  intro task member
  rcases List.mem_append.mp member with earlier | new
  · exact sorted task earlier
  · rw [List.mem_singleton.mp new]
    exact type

theorem Multiplexer.Sorted.moves
    {multiplexer target : Multiplexer} (sorted : multiplexer.Sorted)
    {serverListens clientListens : Bool} {event : MultiplexerEvent}
    (moves :
      multiplexer.Moves serverListens clientListens event target) :
    target.Sorted := by
  cases moves with
  | deliver | fail | forwardPanics | tellPanics =>
      exact ⟨sorted.requests, sorted.responses⟩
  | forwardRequest packet holds type listens room =>
      refine ⟨?_, sorted.responses⟩
      intro other same
      cases same
      exact type
  | forwardResponse packet holds type listens room =>
      refine ⟨sorted.requests, ?_⟩
      intro other same
      cases same
      exact type
  | tellServer failing listens room =>
      refine ⟨?_, sorted.responses⟩
      intro other same
      cases same
  | tellClient failing listens room =>
      refine ⟨sorted.requests, ?_⟩
      intro other same
      cases same

theorem End.Sorted.moves
    {context : End Object} (sorted : context.Sorted)
    {event : EndEvent Object} {result : End Object × List Frame}
    (moves : context.Moves config event result) : result.1.Sorted := by
  cases moves with
  | client event result moves =>
      exact
        { sorted with client := sorted.client.moves moves }
  | server event result moves =>
      exact
        { sorted with server := sorted.server.moves moves }
  | multiplexer event multiplexer moves =>
      exact
        { sorted with multiplexer := sorted.multiplexer.moves moves }
  | clientPacket packet client running waiting received =>
      have type := sorted.multiplexer.responses packet waiting
      refine ⟨⟨sorted.multiplexer.requests, ?_⟩,
        sorted.client.receive type received, sorted.server⟩
      intro other same
      cases same
  | clientFailure running told =>
      refine ⟨⟨sorted.multiplexer.requests, ?_⟩, sorted.client,
        sorted.server⟩
      intro other same
      cases same
  | serverPacket packet receiving waiting =>
      have type := sorted.multiplexer.requests packet waiting
      refine ⟨⟨?_, sorted.multiplexer.responses⟩, sorted.client,
        sorted.server.receive type⟩
      intro other same
      cases same
  | serverFailure receiving told =>
      refine ⟨⟨?_, sorted.multiplexer.responses⟩, sorted.client,
        sorted.server⟩
      intro other same
      cases same
  | clientPanics running nothing gone =>
      exact ⟨sorted.multiplexer, sorted.client, sorted.server⟩
  | serverPanics receiving nothing gone =>
      exact ⟨sorted.multiplexer, sorted.client, sorted.server⟩

theorem End.Sorted.deposit
    {context : End Object} (sorted : context.Sorted)
    (packets : List Frame) : (context.deposit packets).Sorted :=
  ⟨⟨sorted.multiplexer.requests, sorted.multiplexer.responses⟩,
    sorted.client, sorted.server⟩

theorem End.sorted_new (metaService serviceObject : Object) :
    (End.new config metaService serviceObject).Sorted := by
  refine ⟨⟨?_, ?_⟩, ?_, ?_⟩
  · intro packet same
    cases same
  · intro packet same
    cases same
  · intro index packet found
    have member := List.mem_of_getElem? found
    cases List.eq_of_mem_replicate member
  · intro task member
    cases member

end Sorting

/-! ## How packets move -/

/-- Nothing happens to some items, or one of them gets lost for a reason. -/
def Drops {Item : Type u} (reason : Prop)
    (before after : Multiset Item) : Prop :=
  after = before ∨ reason ∧ ∃ item, before = item ::ₘ after

theorem Drops.mono {Item : Type u} {reason weaker : Prop}
    {before after : Multiset Item}
    (drops : Drops reason before after) (weakens : reason → weaker) :
    Drops weaker before after := by
  rcases drops with same | ⟨given, lost⟩
  · exact Or.inl same
  · exact Or.inr ⟨weakens given, lost⟩

namespace Multiplexer

variable {multiplexer target : Multiplexer}
variable {serverListens clientListens : Bool} {event : MultiplexerEvent}

theorem held_of_receiving (receiving : multiplexer.state = .receiving) :
    multiplexer.held = [] := by
  rw [held, receiving]

theorem held_of_forwarding {packet : Frame}
    (holds : multiplexer.state = .forwarding packet) :
    multiplexer.held = [packet] := by
  rw [held, holds]

/-- Taking a packet from the transport moves it from one place to another. -/
private theorem coe_deliver {packet : Frame} {incoming : List Frame}
    {index : Nat} (found : incoming[index]? = some packet) :
    ((incoming.eraseIdx index ++ [packet] : List Frame) : Multiset Frame) =
      ((incoming ++ [] : List Frame) : Multiset Frame) := by
  rw [Multiset.coe_eq_coe]
  exact eraseIdx_append_perm found (List.Perm.refl [packet])

private theorem filter_concat (type : SlotType) (packet : Frame)
    (incoming : List Frame) :
    Multiset.filter (fun packet => packet.slot.getType = type)
        ((incoming ++ [packet] : List Frame) : Multiset Frame) =
      Multiset.filter (fun packet => packet.slot.getType = type)
          ((incoming ++ [] : List Frame) : Multiset Frame) +
        if packet.slot.getType = type then {packet} else 0 := by
  rw [List.append_nil, ← Multiset.coe_add, Multiset.filter_add,
    Multiset.coe_singleton, Multiset.filter_singleton]
  rfl

private theorem undelivered_deliver {packet : Frame} {index : Nat}
    (receiving : multiplexer.state = .receiving)
    (found : multiplexer.incoming[index]? = some packet)
    (type : SlotType) :
    ({ multiplexer with
        incoming := multiplexer.incoming.eraseIdx index
        state := .forwarding packet } : Multiplexer).undelivered type =
      multiplexer.undelivered type := by
  unfold undelivered
  rw [held_of_receiving receiving]
  exact congrArg _ (coe_deliver found)

/-- What the thread holds is undelivered, if it has the type. -/
private theorem undelivered_of_forwarding {packet : Frame}
    (holds : multiplexer.state = .forwarding packet)
    (next : MultiplexerState) (idle : ∀ packet, next ≠ .forwarding packet)
    (type : SlotType) :
    multiplexer.undelivered type =
      ({ multiplexer with state := next } : Multiplexer).undelivered type +
        if packet.slot.getType = type then {packet} else 0 := by
  have nothing :
      ({ multiplexer with state := next } : Multiplexer).held = [] := by
    cases next with
    | forwarding packet =>
        exact absurd rfl (idle packet)
    | receiving | failing | failingResponse | ended | panicked =>
        rfl
  unfold undelivered
  rw [held_of_forwarding holds, nothing]
  exact filter_concat type packet multiplexer.incoming

private theorem packets_of_idle (next : MultiplexerState)
    (nothing : multiplexer.held = [])
    (idle : ({ multiplexer with state := next } : Multiplexer).held = [])
    (type : SlotType) :
    ({ multiplexer with state := next } : Multiplexer).packets type =
      multiplexer.packets type := by
  unfold packets undelivered
  rw [nothing, idle]
  rfl

theorem Moves.packets
    (moves : multiplexer.Moves serverListens clientListens event target)
    (type : SlotType) :
    Drops (target.state = .panicked) (multiplexer.packets type)
      (target.packets type) := by
  cases moves with
  | deliver index packet receiving found =>
      refine Or.inl ?_
      unfold Multiplexer.packets
      rw [undelivered_deliver receiving found]
      rfl
  | fail receiving =>
      exact
        Or.inl (packets_of_idle _ (held_of_receiving receiving) rfl type)
  | forwardRequest packet holds packetType listens room =>
      refine Or.inl ?_
      unfold Multiplexer.packets
      rw [undelivered_of_forwarding holds .receiving (by simp), packetType]
      cases type with
      | request =>
          have empty : multiplexer.channel .request = none := room
          rw [if_pos rfl, empty, channelPackets_none, add_zero]
          rfl
      | response =>
          rw [if_neg (by decide), add_zero]
          rfl
  | forwardResponse packet holds packetType listens room =>
      refine Or.inl ?_
      unfold Multiplexer.packets
      rw [undelivered_of_forwarding holds .receiving (by simp), packetType]
      cases type with
      | request =>
          rw [if_neg (by decide), add_zero]
          rfl
      | response =>
          have empty : multiplexer.channel .response = none := room
          rw [if_pos rfl, empty, channelPackets_none, add_zero]
          rfl
  | forwardPanics packet holds deaf =>
      unfold Multiplexer.packets
      rw [undelivered_of_forwarding holds .panicked (by simp)]
      by_cases same : packet.slot.getType = type
      · refine Or.inr ⟨rfl, packet, ?_⟩
        rw [if_pos same, add_right_comm, add_comm, Multiset.singleton_add]
        rfl
      · refine Or.inl ?_
        rw [if_neg same, add_zero]
        rfl
  | tellServer failing listens room =>
      have nothing : multiplexer.held = [] := by rw [held, failing]
      have same := packets_of_idle .failingResponse nothing rfl type
      refine Or.inl (Eq.trans ?_ same)
      cases type with
      | request =>
          unfold Multiplexer.packets channel
          rw [room]
          rfl
      | response =>
          rfl
  | tellClient failing listens room =>
      have nothing : multiplexer.held = [] := by rw [held, failing]
      have same := packets_of_idle .ended nothing rfl type
      refine Or.inl (Eq.trans ?_ same)
      cases type with
      | request =>
          rfl
      | response =>
          unfold Multiplexer.packets channel
          rw [room]
          rfl
  | tellPanics deaf =>
      have nothing : multiplexer.held = [] := by
        rcases deaf with ⟨failing, _⟩ | ⟨failing, _⟩ <;>
          rw [held, failing]
      exact Or.inl (packets_of_idle .panicked nothing rfl type)

/-- What the other end sends is on the way, if it has the type. -/
theorem packets_append (multiplexer : Multiplexer) (more : List Frame)
    (type : SlotType) :
    ({ multiplexer with
        incoming := multiplexer.incoming ++ more } :
          Multiplexer).packets type =
      multiplexer.packets type +
        Multiset.filter (fun packet => packet.slot.getType = type)
          (more : Multiset Frame) := by
  have rearranged :
      ((multiplexer.incoming ++ more ++ multiplexer.held : List Frame) :
          Multiset Frame) =
        ((multiplexer.incoming ++ multiplexer.held : List Frame) :
            Multiset Frame) + (more : Multiset Frame) := by
    simp only [← Multiset.coe_add]
    exact add_right_comm _ _ _
  have filtered :
      ({ multiplexer with
          incoming := multiplexer.incoming ++ more } :
            Multiplexer).undelivered type =
        multiplexer.undelivered type +
          Multiset.filter (fun packet => packet.slot.getType = type)
            (more : Multiset Frame) := by
    unfold undelivered
    rw [← Multiset.filter_add, ← rearranged]
    rfl
  unfold packets
  rw [filtered, add_right_comm]
  rfl

end Multiplexer

/-! ## One step in each direction -/

/-- No step, or one step of an exchange that is allowed. -/
def Exchange.Advances (allowed : ExchangeEvent → Prop)
    (before after : Exchange) : Prop :=
  after = before ∨ ∃ event, allowed event ∧ before.Moves event after

theorem Exchange.Moves.advances {before after : Exchange}
    {event : ExchangeEvent} (moves : before.Moves event after)
    {allowed : ExchangeEvent → Prop} (excused : allowed event) :
    before.Advances allowed after :=
  Or.inr ⟨event, excused, moves⟩

/-- Losing a packet somewhere on the trail. -/
theorem Exchange.advances_of_drops
    {before : Exchange} {part later others : Multiset Frame}
    {reason : Prop} {allowed : ExchangeEvent → Prop}
    (drops : Drops reason part later)
    (trail : before.trail = others + part)
    (excuses : reason → ∀ packet, allowed (.lose packet)) :
    before.Advances allowed { before with trail := others + later } := by
  rcases drops with rfl | ⟨given, packet, rfl⟩
  · refine Or.inl ?_
    rw [← trail]
  · have onTrail : before.trail = packet ::ₘ (others + later) := by
      rw [trail, Multiset.add_cons]
    exact
      (Exchange.Moves.lose packet _ onTrail).advances
        (excuses given packet)

/-- A thread of a context has panicked. -/
def End.Panicked {Object : Type u} (context : End Object) : Prop :=
  context.client.receiver = .panicked ∨
    context.multiplexer.state = .panicked ∨
    ∃ task ∈ context.server.tasks, task.state = .panicked

/-- Which steps of the exchange a step of an end may account for: packets
get lost in a send that fails and when a thread panics, a request is executed
by the task that handles it at the other end, and only a step of the calling
end is one of its calls. -/
def End.Excuses {Object : Type u} (own : Prop) (event : EndEvent Object)
    (target : End Object) : ExchangeEvent → Prop
  | .execute packet result =>
      ¬ own ∧ ∃ index,
        target.server.tasks[index]? = some ⟨packet, .responding result⟩ ∧
          (event = .server (.finish index result) ∨
            event = .server (.finishDelete index))
  | .lose _ =>
      (∃ index, event = .server (.respond index .failed)) ∨ target.Panicked
  | .abandon index true =>
      own ∧ event = .client (.send index .failedAfterDelivery)
  | .disconnect index => own ∧ event = .client (.disconnect index)
  | _ => True

section Directions

variable {Object : Type u} {config : Config}
variable (caller callee : End Object)

theorem End.deposit_nil (context : End Object) :
    context.deposit [] = context := by
  unfold End.deposit
  rw [List.append_nil]

theorem exchange_deposit_callee (packets : List Frame) :
    exchange caller (callee.deposit packets) =
      { exchange caller callee with
        trail :=
          Multiset.filter (fun packet => packet.slot.getType = .request)
              (packets : Multiset Frame) +
            (exchange caller callee).trail } := by
  unfold exchange End.deposit
  rw [Multiplexer.packets_append]
  congr 1
  simp only
  ac_rfl

theorem exchange_deposit_caller (packets : List Frame) :
    exchange (caller.deposit packets) callee =
      { exchange caller callee with
        trail :=
          Multiset.filter (fun packet => packet.slot.getType = .response)
              (packets : Multiset Frame) +
            (exchange caller callee).trail } := by
  unfold exchange End.deposit
  rw [Multiplexer.packets_append]
  congr 1
  simp only
  ac_rfl

private theorem filter_singleton_of_type {type : SlotType} {packet : Frame}
    (same : packet.slot.getType = type) :
    Multiset.filter (fun packet => packet.slot.getType = type)
        (([packet] : List Frame) : Multiset Frame) = {packet} := by
  rw [Multiset.coe_singleton, Multiset.filter_singleton, if_pos same]

/-- Closing a channel loses nothing unless it was full. -/
theorem Client.arrived_abandon
    {client : Client} {slot : SlotId}
    (notFull : ∀ packet,
      client.slotChannels[slot.asUsize]? ≠ some (.full packet))
    (index : Nat) (request : Frame) :
    (client.abandon index request slot).arrived = client.arrived := by
  unfold Client.arrived Client.abandon
  cases found : client.slotChannels[slot.asUsize]? with
  | none =>
      rw [List.set_eq_of_length_le (List.getElem?_eq_none_iff.mp found)]
  | some channel =>
      cases channel with
      | full packet =>
          exact absurd found (notFull packet)
      | empty | closed =>
          exact congrArg _ (filterMap_set_of_eq found rfl)

theorem exchange_set_client (client : Client)
    (arrived : client.arrived = caller.client.arrived) :
    exchange { caller with client := client } callee =
      { exchange caller callee with
        free := client.callSlots
        calls := client.calls } := by
  unfold exchange
  rw [arrived]

/-- The slot of a call that has not sent yet has no response. -/
private theorem not_full_of_sending
    {slots : Multiset SlotId} (nodup : slots.Nodup)
    (ok : (exchange caller callee).Ok slots)
    (sorted : caller.client.Sorted) {index : Nat} {request : Frame}
    {slot : SlotId}
    (found :
      caller.client.calls[index]? = some ⟨request, .sending slot⟩)
    (packet : Frame) :
    caller.client.slotChannels[slot.asUsize]? ≠ some (.full packet) := by
  intro full
  obtain ⟨type, same⟩ := sorted slot.asUsize packet full
  have onTrail : packet ∈ (exchange caller callee).trail := by
    have arrived : packet ∈ caller.client.arrived := by
      refine Multiset.mem_coe.mpr (List.mem_filterMap.mpr ?_)
      exact ⟨.full packet, List.mem_of_getElem? full, rfl⟩
    exact
      Multiset.mem_add.mpr (Or.inr (Multiset.mem_add.mpr (Or.inr arrived)))
  have nothing :=
    ok.no_packet_of_not_expected nodup found rfl rfl packet onTrail
  rw [Frame.callSlot_of_response type] at nothing
  exact nothing (SlotId.asUsize_injective same)

variable {caller callee}

theorem Client.Moves.advances
    {slots : Multiset SlotId} (nodup : slots.Nodup)
    (ok : (exchange caller callee).Ok slots)
    (sorted : caller.client.Sorted) {own : Prop} (isOwn : own)
    {event : ClientEvent}
    {result : Client × List Frame}
    (moves : caller.client.Moves config event result) :
    (exchange caller callee).Advances
      (End.Excuses own (.client event) { caller with client := result.1 })
      (exchange { caller with client := result.1 }
        (callee.deposit result.2)) := by
  cases moves with
  | invoke request =>
      rw [End.deposit_nil]
      exact (Exchange.Moves.invoke request).advances trivial
  | pop index request slot rest found front =>
      have isFree :
          (exchange caller callee).free = slot ::ₘ (rest : Multiset SlotId) :=
        congrArg _ front
      rw [End.deposit_nil]
      exact
        (Exchange.Moves.pop index request slot _ found isFree).advances
          trivial
  | timeOut index request found exhausted limited =>
      rw [End.deposit_nil]
      exact (Exchange.Moves.timeOut index request found).advances trivial
  | send index request packet slot found written =>
      have type := (Frame.sentUnder_of_addressed written).type
      rw [exchange_deposit_callee, filter_singleton_of_type type,
        Multiset.singleton_add]
      exact
        (Exchange.Moves.send index request packet slot found
          written).advances trivial
  | sendFails index request packet slot outcome found written fails =>
      have type := (Frame.sentUnder_of_addressed written).type
      have arrived :=
        caller.client.arrived_abandon
          (not_full_of_sending caller callee nodup ok sorted found) index
          request
      cases outcome with
      | sent =>
          exact absurd rfl fails
      | failed =>
          simp only [SendOutcome.packets]
          rw [End.deposit_nil, exchange_set_client _ _ _ arrived]
          exact
            (Exchange.Moves.abandon index request slot found).advances
              trivial
      | failedAfterDelivery =>
          simp only [SendOutcome.packets]
          rw [exchange_deposit_callee, filter_singleton_of_type type,
            Multiset.singleton_add, exchange_set_client _ _ _ arrived]
          exact
            (Exchange.Moves.abandonSent index request packet slot found
              written).advances ⟨isOwn, rfl⟩
  | sendPanics index request slot outcome found refused =>
      have arrived :=
        caller.client.arrived_abandon
          (not_full_of_sending caller callee nodup ok sorted found) index
          request
      rw [End.deposit_nil, exchange_set_client _ _ _ arrived]
      exact
        (Exchange.Moves.abandon index request slot found).advances trivial
  | takeResponse index request response slot found full =>
      obtain ⟨type, same⟩ := sorted slot.asUsize response full
      obtain rfl := SlotId.asUsize_injective same
      have selects :
          SlotChannel.packet (.full response) = some response := rfl
      have taken :
          caller.client.arrived =
            response ::ₘ
              ((caller.client.slotChannels.set response.slot.asUsize
                .empty).filterMap SlotChannel.packet : List Frame) :=
        filterMap_set_erase full selects rfl
      rw [End.deposit_nil]
      refine
        (Exchange.Moves.takeResponse index request response _ found type
          ?_).advances trivial
      unfold exchange
      simp only [taken, Multiset.add_cons]
      rfl
  | disconnect index request slot found nothing stopped =>
      have notFull (packet : Frame) :
          caller.client.slotChannels[slot.asUsize]? ≠
            some (.full packet) := by
        rw [nothing]
        simp
      have arrived := caller.client.arrived_abandon notFull index request
      rw [End.deposit_nil, exchange_set_client _ _ _ arrived]
      exact
        (Exchange.Moves.disconnect index request slot found).advances
          ⟨isOwn, rfl⟩
  | release index request response slot found room =>
      have appended :
          ((caller.client.callSlots ++ [slot] : List SlotId) :
              Multiset SlotId) =
            slot ::ₘ (exchange caller callee).free :=
        Multiset.coe_eq_coe.mpr (List.perm_append_singleton _ _)
      have moved : (exchange caller callee).Moves (.release index) _ :=
        .release index request response slot found
      rw [← appended] at moved
      rw [End.deposit_nil]
      exact moved.advances trivial

/-- The other end loses nothing, or one packet, that it was handling. -/
private theorem advances_of_server
    {server : Server Object} {reason : Prop}
    {allowed : ExchangeEvent → Prop}
    (drops : Drops reason callee.server.packets server.packets)
    (log : server.log = callee.server.log)
    (excuses : reason → ∀ packet, allowed (.lose packet)) :
    (exchange caller callee).Advances allowed
      (exchange caller { callee with server := server }) := by
  have trail :
      (exchange caller callee).trail =
        (callee.multiplexer.packets .request +
            (caller.multiplexer.packets .response +
              caller.client.arrived)) + callee.server.packets :=
    add_right_comm _ _ _
  have advances := Exchange.advances_of_drops drops trail excuses
  rw [add_right_comm] at advances
  unfold exchange at advances ⊢
  simp only [log]
  exact advances

private theorem advances_of_callee_multiplexer
    {multiplexer : Multiplexer} {reason : Prop}
    {allowed : ExchangeEvent → Prop}
    (drops :
      Drops reason (callee.multiplexer.packets .request)
        (multiplexer.packets .request))
    (excuses : reason → ∀ packet, allowed (.lose packet)) :
    (exchange caller callee).Advances allowed
      (exchange caller { callee with multiplexer := multiplexer }) := by
  have trail :
      (exchange caller callee).trail =
        (callee.server.packets +
            (caller.multiplexer.packets .response +
              caller.client.arrived)) +
          callee.multiplexer.packets .request := by
    unfold exchange
    simp only
    ac_rfl
  have advances := Exchange.advances_of_drops drops trail excuses
  rw [add_comm, ← add_assoc] at advances
  exact advances

private theorem advances_of_caller_multiplexer
    {multiplexer : Multiplexer} {reason : Prop}
    {allowed : ExchangeEvent → Prop}
    (drops :
      Drops reason (caller.multiplexer.packets .response)
        (multiplexer.packets .response))
    (excuses : reason → ∀ packet, allowed (.lose packet)) :
    (exchange caller callee).Advances allowed
      (exchange { caller with multiplexer := multiplexer } callee) := by
  have trail :
      (exchange caller callee).trail =
        (callee.multiplexer.packets .request + callee.server.packets +
            caller.client.arrived) +
          caller.multiplexer.packets .response := by
    unfold exchange
    simp only
    ac_rfl
  have advances := Exchange.advances_of_drops drops trail excuses
  rw [add_assoc _ caller.client.arrived, add_comm caller.client.arrived]
    at advances
  exact advances

private theorem packets_set_task
    {server : Server Object} {index : Nat} {task : Task Object}
    (found : server.tasks[index]? = some task) {next : Task Object}
    {later : Server Object}
    (tasks : later.tasks = server.tasks.set index next)
    (same : next.packet = task.packet) :
    Drops False server.packets later.packets := by
  unfold Server.packets
  rw [tasks]
  exact Or.inl (congrArg _ (filterMap_set_of_eq found same))

private theorem drops_set_task
    {server : Server Object} {index : Nat} {task : Task Object}
    (found : server.tasks[index]? = some task) {packet : Frame}
    (holds : task.packet = some packet) {next : Task Object}
    {later : Server Object}
    (tasks : later.tasks = server.tasks.set index next)
    (nothing : next.packet = none) :
    Drops (next ∈ later.tasks) server.packets later.packets := by
  obtain ⟨valid, _⟩ := List.getElem?_eq_some_iff.mp found
  unfold Server.packets
  rw [tasks]
  exact
    Or.inr
      ⟨List.mem_set valid next, packet,
        filterMap_set_erase found holds nothing⟩

private theorem log_set_task
    {server : Server Object} {index : Nat} {task : Task Object}
    (found : server.tasks[index]? = some task) {next : Task Object}
    {later : Server Object}
    (tasks : later.tasks = server.tasks.set index next)
    (same : next.execution = task.execution) :
    later.log = server.log := by
  unfold Server.log
  rw [tasks]
  exact congrArg _ (filterMap_set_of_eq found same)

/-- The end of a method, or of a delete, executes the request. -/
private theorem advances_of_result
    (sorted : callee.server.Sorted) {index : Nat} {task : Task Object}
    (found : callee.server.tasks[index]? = some task)
    (holds : task.packet = some task.request)
    (fresh : task.execution = none) {server : Server Object}
    {result : Bytes}
    (tasks :
      server.tasks =
        callee.server.tasks.set index ⟨task.request, .responding result⟩)
    {allowed : ExchangeEvent → Prop}
    (excused : allowed (.execute task.request result)) :
    (exchange caller callee).Advances allowed
      (exchange caller { callee with server := server }) := by
  have type := sorted task (List.mem_of_getElem? found)
  obtain ⟨response, answered⟩ := Frame.exists_answered type result
  have responds :
      (Task.mk task.request (.responding result : TaskState Object)).packet =
        some response :=
    answered
  obtain ⟨others, before, after⟩ :=
    exists_rest_of_filterMap_set found holds responds
  have logged :
      server.log =
        (task.request.content, result) ::ₘ callee.server.log := by
    unfold Server.log
    rw [tasks]
    exact filterMap_set_cons found fresh rfl
  have left : callee.server.packets = task.request ::ₘ others := before
  have right : server.packets = response ::ₘ others := by
    unfold Server.packets
    rw [tasks]
    exact after
  have onTrail :
      (exchange caller callee).trail =
        task.request ::ₘ
          (callee.multiplexer.packets .request + others +
            (caller.multiplexer.packets .response +
              caller.client.arrived)) := by
    unfold exchange
    simp only [left, Multiset.add_cons, Multiset.cons_add]
  have moved :=
    Exchange.Moves.execute task.request response result _ onTrail answered
  have same :
      exchange caller { callee with server := server } =
        { exchange caller callee with
          trail :=
            response ::ₘ
              (callee.multiplexer.packets .request + others +
                (caller.multiplexer.packets .response +
                  caller.client.arrived))
          log :=
            (task.request.content, result) ::ₘ
              (exchange caller callee).log } := by
    unfold exchange
    simp only [right, logged, Multiset.add_cons, Multiset.cons_add]
  rw [same]
  exact moved.advances excused

/-- The answer leaves the thread that made it, and may get lost. -/
private theorem advances_of_respond
    {index : Nat} {request packet : Frame} {result : Bytes}
    (outcome : SendOutcome)
    (found :
      callee.server.tasks[index]? = some ⟨request, .responding result⟩)
    (written : request.answered result = some packet)
    {allowed : ExchangeEvent → Prop}
    (excuses : outcome = .failed → ∀ packet, allowed (.lose packet)) :
    (exchange caller callee).Advances allowed
      (exchange (caller.deposit (outcome.packets packet))
        { callee with
          server :=
            callee.server.setTask index ⟨request, .accounting result⟩ }) := by
  have type := (Frame.answers_of_answered written).type
  have holds :
      (Task.mk request (.responding result : TaskState Object)).packet =
        some packet :=
    written
  have left :
      callee.server.packets =
        packet ::ₘ (callee.server.setTask index
          ⟨request, .accounting result⟩).packets :=
    filterMap_set_erase found holds rfl
  have log :
      (callee.server.setTask index ⟨request, .accounting result⟩).log =
        callee.server.log :=
    log_set_task found rfl rfl
  cases outcome with
  | failed =>
      simp only [SendOutcome.packets]
      rw [End.deposit_nil]
      exact advances_of_server (Or.inr ⟨rfl, packet, left⟩) log excuses
  | sent | failedAfterDelivery =>
      refine Or.inl ?_
      simp only [SendOutcome.packets]
      rw [exchange_deposit_caller, filter_singleton_of_type type,
        Multiset.singleton_add]
      unfold exchange
      simp only [left, log, Multiset.add_cons, Multiset.cons_add]

private theorem getElem?_setTask
    {server : Server Object} {index : Nat} {task : Task Object}
    (found : server.tasks[index]? = some task) (next : Task Object) :
    (server.setTask index next).tasks[index]? = some next := by
  obtain ⟨valid, _⟩ := List.getElem?_eq_some_iff.mp found
  exact List.getElem?_set_self valid

theorem Server.Moves.advances
    (sorted : callee.server.Sorted) {own : Prop} (notOwn : ¬ own)
    {event : ServerEvent Object}
    {result : Server Object × List Frame}
    (moves : callee.server.Moves config event result) :
    (exchange caller callee).Advances
      (End.Excuses own (.server event) { callee with server := result.1 })
      (exchange (caller.deposit result.2)
        { callee with server := result.1 }) := by
  cases moves with
  | startDelete index request registry found free delete removed =>
      rw [End.deposit_nil]
      exact
        advances_of_server (packets_set_task found rfl rfl)
          (log_set_task found rfl rfl) False.elim
  | startCall index request object found free call registered =>
      rw [End.deposit_nil]
      exact
        advances_of_server (packets_set_task found rfl rfl)
          (log_set_task found rfl rfl) False.elim
  | startPanics _ _ found | crash _ _ _ found | crashDelete _ _ found =>
      rw [End.deposit_nil]
      refine
        advances_of_server (drops_set_task found rfl rfl rfl)
          (log_set_task found rfl rfl) ?_
      intro member _
      exact Or.inr (Or.inr (Or.inr ⟨_, member, rfl⟩))
  | destroyed index request found =>
      rw [End.deposit_nil]
      exact
        advances_of_server (packets_set_task found rfl rfl)
          (log_set_task found rfl rfl) False.elim
  | finishDelete index request registry found pushed =>
      rw [End.deposit_nil]
      exact
        advances_of_result sorted found rfl rfl rfl
          ⟨notOwn, index, getElem?_setTask found _, Or.inr rfl⟩
  | finish index request object value found =>
      rw [End.deposit_nil]
      exact
        advances_of_result sorted found rfl rfl rfl
          ⟨notOwn, index, getElem?_setTask found _, Or.inl rfl⟩
  | respond index request packet value outcome found written =>
      refine advances_of_respond outcome found written ?_
      rintro rfl _
      exact Or.inl ⟨index, rfl⟩
  | respondPanics index request value outcome found refused =>
      have type := sorted _ (List.mem_of_getElem? found)
      obtain ⟨response, answered⟩ := Frame.exists_answered type value
      rw [refused] at answered
      cases answered
  | account index request value found =>
      rw [End.deposit_nil]
      exact
        advances_of_server (packets_set_task found rfl rfl)
          (log_set_task found rfl rfl) False.elim
  | drained draining zero =>
      rw [End.deposit_nil]
      exact Or.inl rfl
  | popFront object registry taken =>
      rw [End.deposit_nil]
      exact Or.inl rfl
  | insert index registry inserted =>
      rw [End.deposit_nil]
      exact Or.inl rfl
  | clear registry cleared =>
      rw [End.deposit_nil]
      exact Or.inl rfl

/-! ### The other steps -/

theorem SendOutcome.mem_packets {outcome : SendOutcome}
    {packet sent : Frame} (member : sent ∈ outcome.packets packet) :
    sent = packet := by
  cases outcome with
  | sent | failedAfterDelivery =>
      exact List.mem_singleton.mp member
  | failed =>
      cases member

theorem Client.Moves.sends_requests
    {client : Client} {event : ClientEvent}
    {result : Client × List Frame}
    (moves : client.Moves config event result) :
    ∀ packet ∈ result.2, packet.slot.getType = .request := by
  intro sent member
  cases moves with
  | send index request packet slot found written =>
      rw [List.mem_singleton.mp member]
      exact (Frame.sentUnder_of_addressed written).type
  | sendFails index request packet slot outcome found written fails =>
      rw [SendOutcome.mem_packets member]
      exact (Frame.sentUnder_of_addressed written).type
  | invoke | pop | timeOut | sendPanics | takeResponse | disconnect
  | release =>
      cases member

theorem Server.Moves.sends_responses
    {server : Server Object} {event : ServerEvent Object}
    {result : Server Object × List Frame}
    (moves : server.Moves config event result) :
    ∀ packet ∈ result.2, packet.slot.getType = .response := by
  intro sent member
  cases moves with
  | respond index request packet value outcome found written =>
      rw [SendOutcome.mem_packets member]
      exact (Frame.answers_of_answered written).type
  | startDelete | startCall | startPanics | destroyed | finishDelete
  | finish | crash | crashDelete | respondPanics | account | drained
  | popFront | insert | clear =>
      cases member

theorem filter_eq_zero_of_type (type : SlotType)
    {other : SlotType} (different : other ≠ type) {packets : List Frame}
    (all : ∀ packet ∈ packets, packet.slot.getType = other) :
    Multiset.filter (fun packet => packet.slot.getType = type)
      (packets : Multiset Frame) = 0 := by
  rw [Multiset.filter_eq_nil]
  intro packet member same
  exact different ((all packet member).symm.trans same)

/-- A response reaches its slot, or the receiving thread panics over it. -/
theorem Client.receive_cases
    {client next : Client} {packet : Frame}
    (received : client.receive packet = some next) :
    next.callSlots = client.callSlots ∧ next.calls = client.calls ∧
      (next.arrived = packet ::ₘ client.arrived ∨
        next.arrived = client.arrived ∧ next.receiver = .panicked) := by
  simp only [Client.receive] at received
  split at received
  · rename_i empty
    cases received
    exact
      ⟨rfl, rfl, Or.inl (filterMap_set_cons empty rfl rfl)⟩
  · cases received
  all_goals
    cases received
    exact ⟨rfl, rfl, Or.inr ⟨rfl, rfl⟩⟩

/-- Taking the item out of a channel. -/
theorem packets_setResponseChannel
    (context : End Object) {item : Item}
    (waiting : context.multiplexer.responseChannel = some item) :
    context.multiplexer.packets .response =
      channelPackets (some item) +
        (context.setResponseChannel none).multiplexer.packets
          .response := by
  have emptied :
      (context.setResponseChannel none).multiplexer.packets .response =
        context.multiplexer.undelivered .response + 0 := rfl
  have channel :
      context.multiplexer.channel .response = some item := waiting
  rw [emptied, Multiplexer.packets, channel, add_zero, add_comm]

theorem packets_setRequestChannel
    (context : End Object) {item : Item}
    (waiting : context.multiplexer.requestChannel = some item) :
    context.multiplexer.packets .request =
      channelPackets (some item) +
        (context.setRequestChannel none).multiplexer.packets .request := by
  have emptied :
      (context.setRequestChannel none).multiplexer.packets .request =
        context.multiplexer.undelivered .request + 0 := rfl
  have channel :
      context.multiplexer.channel .request = some item := waiting
  rw [emptied, Multiplexer.packets, channel, add_zero, add_comm]

theorem End.Moves.advances_caller
    {slots : Multiset SlotId} (nodup : slots.Nodup)
    (ok : (exchange caller callee).Ok slots)
    (sorted : caller.Sorted) {own : Prop} (isOwn : own)
    {event : EndEvent Object} {result : End Object × List Frame}
    (moves : caller.Moves config event result) :
    (exchange caller callee).Advances (End.Excuses own event result.1)
      (exchange result.1 (callee.deposit result.2)) := by
  cases moves with
  | client event inner moves =>
      exact moves.advances nodup ok sorted.client isOwn
  | server event inner moves =>
      have nothing :=
        filter_eq_zero_of_type .request (by decide) moves.sends_responses
      refine Or.inl ?_
      rw [exchange_deposit_callee, nothing, zero_add]
      rfl
  | multiplexer event multiplexer moves =>
      rw [End.deposit_nil]
      refine
        advances_of_caller_multiplexer (moves.packets .response) ?_
      intro panicked _
      exact Or.inr (Or.inr (Or.inl panicked))
  | clientPacket packet client running waiting received =>
      obtain ⟨free, calls, moved⟩ := Client.receive_cases received
      have left :=
        (packets_setResponseChannel caller waiting).trans
          (Multiset.singleton_add packet _)
      rw [End.deposit_nil]
      rcases moved with arrived | ⟨lost, panicked⟩
      · refine Or.inl ?_
        unfold exchange
        simp only [free, calls, arrived, left, Multiset.add_cons,
          Multiset.cons_add]
      · have onTrail :
            (exchange caller callee).trail =
              packet ::ₘ
                (callee.multiplexer.packets .request +
                    callee.server.packets +
                  ((caller.setResponseChannel none).multiplexer.packets
                      .response + caller.client.arrived)) := by
          unfold exchange
          simp only [left, Multiset.add_cons, Multiset.cons_add]
        have moved := Exchange.Moves.lose packet _ onTrail
        unfold exchange at moved ⊢
        simp only [free, calls, lost]
        exact moved.advances (Or.inr (Or.inl panicked))
  | clientFailure running told =>
      have left := packets_setResponseChannel caller told
      refine Or.inl ?_
      rw [End.deposit_nil]
      unfold exchange
      rw [left]
      simp only [channelPackets, zero_add]
      rfl
  | clientPanics running nothing gone =>
      rw [End.deposit_nil]
      exact Or.inl rfl
  | serverPacket packet receiving waiting =>
      rw [End.deposit_nil]
      exact Or.inl rfl
  | serverFailure receiving told =>
      rw [End.deposit_nil]
      exact Or.inl rfl
  | serverPanics receiving nothing gone =>
      rw [End.deposit_nil]
      exact Or.inl rfl

theorem End.Moves.advances_callee
    (caller : End Object) (sorted : callee.Sorted) {own : Prop}
    (notOwn : ¬ own) {event : EndEvent Object}
    {result : End Object × List Frame}
    (moves : callee.Moves config event result) :
    (exchange caller callee).Advances (End.Excuses own event result.1)
      (exchange (caller.deposit result.2) result.1) := by
  cases moves with
  | client event inner moves =>
      have nothing :=
        filter_eq_zero_of_type .response (by decide) moves.sends_requests
      refine Or.inl ?_
      rw [exchange_deposit_caller, nothing, zero_add]
      rfl
  | server event inner moves =>
      exact moves.advances sorted.server notOwn
  | multiplexer event multiplexer moves =>
      rw [End.deposit_nil]
      refine
        advances_of_callee_multiplexer (moves.packets .request) ?_
      intro panicked _
      exact Or.inr (Or.inr (Or.inl panicked))
  | clientPacket packet client running waiting received =>
      rw [End.deposit_nil]
      exact Or.inl rfl
  | clientFailure running told =>
      rw [End.deposit_nil]
      exact Or.inl rfl
  | clientPanics running nothing gone =>
      rw [End.deposit_nil]
      exact Or.inl rfl
  | serverPacket packet receiving waiting =>
      have left :=
        (packets_setRequestChannel callee waiting).trans
          (Multiset.singleton_add packet _)
      have queued :
          (callee.server.receive packet).packets =
            packet ::ₘ callee.server.packets := by
        unfold Server.packets Server.receive
        rw [List.filterMap_append, ← Multiset.coe_add, add_comm]
        rfl
      have logged :
          (callee.server.receive packet).log = callee.server.log := by
        unfold Server.log Server.receive
        rw [List.filterMap_append]
        exact congrArg _ (List.append_nil _)
      refine Or.inl ?_
      rw [End.deposit_nil]
      unfold exchange
      simp only [left, queued, logged, Multiset.add_cons,
        Multiset.cons_add]
  | serverFailure receiving told =>
      have left := packets_setRequestChannel callee told
      refine Or.inl ?_
      rw [End.deposit_nil]
      unfold exchange
      rw [left]
      simp only [channelPackets, zero_add]
      rfl
  | serverPanics receiving nothing gone =>
      rw [End.deposit_nil]
      exact Or.inl rfl

end Directions

/-! ## Every run of a connection -/

section Connections

variable {Object : Type u} {config : Side → Config}
variable {connection : Connection Object}

def Connection.Sorted (connection : Connection Object) : Prop :=
  ∀ side, (connection.ends side).Sorted

theorem Connection.sorted_of_reachable
    (reachable : (connectionSystem Object config).Reachable connection) :
    connection.Sorted := by
  refine reachable.invariant ?_ ?_
  · intro source begins side
    obtain ⟨metaService, serviceObject, same⟩ := begins side
    rw [same]
    exact End.sorted_new metaService serviceObject
  · intro source event target sorted stepped side
    obtain ⟨packets, taken⟩ := Connection.stepsTo_of_step stepped
    rcases side.eq_or_eq_other event.side with rfl | rfl
    · exact (sorted event.side).moves taken.moves
    · rw [taken.deposited]
      exact (sorted event.side.other).deposit packets

/-- The calls of one side. -/
def Connection.exchange (connection : Connection Object) (caller : Side) :
    Exchange :=
  Rpc.exchange (connection.ends caller) (connection.ends caller.other)

theorem Config.nodup_slots (config : Config) : config.slots.Nodup := by
  refine List.Nodup.map_on ?_ List.nodup_range
  intro left leftMember right rightMember same
  have small : config.slotCount < 2 ^ 32 :=
    Nat.mod_lt _ (by decide)
  refine
    ofNat_inj_of_lt ((List.mem_range.mp leftMember).trans small)
      ((List.mem_range.mp rightMember).trans small) ?_
  injection same

private theorem exchange_new {callerConfig calleeConfig : Config}
    (callerMeta callerObject calleeMeta calleeObject : Object) :
    Rpc.exchange (End.new callerConfig callerMeta callerObject)
        (End.new calleeConfig calleeMeta calleeObject) =
      ⟨callerConfig.slots, [], 0, 0⟩ := by
  have nothing : (Client.new callerConfig).arrived = 0 := by
    unfold Client.arrived Client.new
    rw [List.filterMap_replicate_of_none rfl]
    rfl
  unfold Rpc.exchange End.new
  simp only [nothing]
  rfl

/-- A step of a connection moves the calls of either side as the end that
takes it can account for. -/
theorem Connection.StepsTo.advances
    {source target : Connection Object} {event : ConnectionEvent Object}
    {packets : List Frame}
    (taken : source.StepsTo config event target packets)
    (sorted : source.Sorted) (caller : Side)
    (ok : (source.exchange caller).Ok (config caller).slots) :
    (source.exchange caller).Advances
      (End.Excuses (event.side = caller) event.event
        (target.ends event.side))
      (target.exchange caller) := by
  have nodup : ((config caller).slots : Multiset SlotId).Nodup :=
    (config caller).nodup_slots
  obtain ⟨side, inner⟩ := event
  rcases side.eq_or_eq_other caller with rfl | rfl
  · have own : side = side := rfl
    have advances :=
      taken.moves.advances_caller nodup ok (sorted side) own
    rw [← taken.deposited] at advances
    exact advances
  · have advances :=
      taken.moves.advances_callee (source.ends caller)
        (sorted caller.other) caller.other_ne
    have deposited := taken.deposited
    simp only [Side.other_other] at deposited
    rw [← deposited] at advances
    exact advances

/-- Each side of a connection is an exchange over the slots of that side. -/
theorem Connection.reachable_exchange
    (reachable : (connectionSystem Object config).Reachable connection)
    (caller : Side) :
    (exchangeSystem (config caller).slots).Reachable
      (connection.exchange caller) := by
  refine
    TransitionSystem.reachable_project_reachable
      (fun connection => connection.exchange caller) ?_ ?_ reachable
  · intro source begins
    obtain ⟨_, _, own⟩ := begins caller
    obtain ⟨_, _, others⟩ := begins caller.other
    show Rpc.exchange (source.ends caller) (source.ends caller.other) = _
    rw [own, others]
    exact exchange_new _ _ _ _
  · intro source event target reached image stepped
    have sorted := Connection.sorted_of_reachable reached
    have ok := Exchange.ok_of_reachable image
    obtain ⟨packets, taken⟩ := Connection.stepsTo_of_step stepped
    rcases taken.advances sorted caller ok with same | ⟨deed, _, moves⟩
    · exact Or.inl same
    · exact Or.inr ⟨deed, moves.step⟩

end Connections

end CloudP2P.Rpc
