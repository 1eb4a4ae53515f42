import CloudP2P.Rpc.Guarantees

/-!
# The threads of a context

Three threads of a context can panic without any method being called: the
one that receives for both ends, the one that receives for the client, and
the one that receives for the server.  None of them does unless a send
reports a failure for a packet that got out: the call then drops its slot,
and the response to the packet finds nobody to take it.

The server ends only when every request that it took has been handled to the
end, so one method that panics keeps it from ever ending.
-/

universe u

namespace CloudP2P.Rpc

/-! ## The channels of the slots -/

/-- There is a channel for every slot, and only a call that has dropped its
slot closes one. -/
structure Client.ChannelsKept (config : Config) (client : Client) :
    Prop where
  length : client.slotChannels.length = config.slotCount
  closed :
    ∀ slot : SlotId,
      client.slotChannels[slot.asUsize]? = some .closed →
        ∃ call ∈ client.calls, call.state = .abandoned slot

section Channels

variable {config : Config} {client next : Client}

/-- A channel that is set to something else is closed if it was before. -/
private theorem closed_of_set
    {channels : List SlotChannel} {index other : Nat}
    {channel : SlotChannel} (isOpen : channel ≠ .closed)
    (found : (channels.set index channel)[other]? = some .closed) :
    channels[other]? = some .closed := by
  by_cases same : index = other
  · subst same
    exact absurd (eq_of_getElem?_set_self found).symm isOpen
  · rwa [List.getElem?_set_ne same] at found

private theorem exists_abandoned_set
    {calls : List Call} {index : Nat} {call : Call}
    (found : calls[index]? = some call)
    (active : ∀ slot, call.state ≠ .abandoned slot) (value : Call)
    {slot : SlotId}
    (abandoned : ∃ call ∈ calls, call.state = .abandoned slot) :
    ∃ call ∈ calls.set index value, call.state = .abandoned slot := by
  obtain ⟨other, member, state⟩ := abandoned
  refine ⟨other, mem_set_of_ne found value member ?_, state⟩
  rintro rfl
  exact active slot state

theorem Client.ChannelsKept.set_call
    (kept : client.ChannelsKept config) {index : Nat} {call : Call}
    (found : client.calls[index]? = some call)
    (active : ∀ slot, call.state ≠ .abandoned slot) {value : Call}
    (length : next.slotChannels.length = client.slotChannels.length)
    (closed : ∀ slot : SlotId,
      next.slotChannels[slot.asUsize]? = some .closed →
        client.slotChannels[slot.asUsize]? = some .closed)
    (calls : next.calls = client.calls.set index value) :
    next.ChannelsKept config where
  length := length.trans kept.length
  closed slot now := by
    rw [calls]
    exact
      exists_abandoned_set found active value
        (kept.closed slot (closed slot now))

theorem Client.ChannelsKept.abandon
    (kept : client.ChannelsKept config) {index : Nat} {call : Call}
    (found : client.calls[index]? = some call)
    (active : ∀ slot, call.state ≠ .abandoned slot) (slot : SlotId) :
    (client.abandon index call.request slot).ChannelsKept config where
  length := by
    unfold Client.abandon
    rw [List.length_set]
    exact kept.length
  closed other now := by
    obtain ⟨valid, _⟩ := List.getElem?_eq_some_iff.mp found
    by_cases same : slot = other
    · subst same
      exact ⟨_, List.mem_set valid _, rfl⟩
    · have elsewhere : slot.asUsize ≠ other.asUsize :=
        fun equal => same (SlotId.asUsize_injective equal)
      have before : client.slotChannels[other.asUsize]? = some .closed := by
        rw [← now]
        exact (List.getElem?_set_ne elsewhere).symm
      exact exists_abandoned_set found active _ (kept.closed other before)

theorem Client.ChannelsKept.moves
    (kept : client.ChannelsKept config) {event : ClientEvent}
    {result : Client × List Frame}
    (moves : client.Moves config event result) :
    result.1.ChannelsKept config := by
  cases moves with
  | invoke request =>
      refine ⟨kept.length, ?_⟩
      intro slot now
      obtain ⟨call, member, state⟩ := kept.closed slot now
      exact ⟨call, List.mem_append_left _ member, state⟩
  | pop _ _ _ _ found | timeOut _ _ found | send _ _ _ _ found
  | release _ _ _ _ found =>
      exact kept.set_call found (by simp) rfl (fun _ now => now) rfl
  | sendFails _ _ _ slot _ found | sendPanics _ _ slot _ found
  | disconnect _ _ slot found =>
      exact kept.abandon found (by simp) slot
  | takeResponse index request response slot found arrived =>
      refine
        kept.set_call found (by simp) List.length_set ?_ rfl
      intro other now
      exact closed_of_set (by simp) now

theorem Client.ChannelsKept.receive
    (kept : client.ChannelsKept config) {packet : Frame}
    (received : client.receive packet = some next) :
    next.ChannelsKept config := by
  simp only [Client.receive] at received
  split at received
  · cases received
    refine ⟨List.length_set.trans kept.length, ?_⟩
    intro slot now
    exact kept.closed slot (closed_of_set (by simp) now)
  · cases received
  all_goals
    cases received
    exact ⟨kept.length, kept.closed⟩

theorem Client.channelsKept_new (config : Config) :
    (Client.new config).ChannelsKept config := by
  refine ⟨List.length_replicate, ?_⟩
  intro slot now
  have member := List.mem_of_getElem? now
  cases List.eq_of_mem_replicate member

variable {Object : Type u} {context : End Object}

theorem End.Moves.channelsKept
    (kept : context.client.ChannelsKept config) {event : EndEvent Object}
    {result : End Object × List Frame}
    (moves : context.Moves config event result) :
    result.1.client.ChannelsKept config := by
  cases moves with
  | client event result moves =>
      exact kept.moves moves
  | clientPacket packet client running waiting received =>
      exact kept.receive received
  | clientFailure | clientPanics =>
      exact ⟨kept.length, kept.closed⟩
  | server | multiplexer | serverPacket | serverFailure | serverPanics =>
      exact kept

end Channels

/-! ## Responses that are awaited -/

theorem Config.asUsize_lt {config : Config} {slot : SlotId}
    (member : slot ∈ config.slots) : slot.asUsize < config.slotCount := by
  obtain ⟨number, inRange, rfl⟩ := List.mem_map.mp member
  have bound := List.mem_range.mp inRange
  have small : config.slotCount < 2 ^ 32 := Nat.mod_lt _ (by decide)
  rw [SlotId.asUsize, UInt32.toNat_ofNat_of_lt' (bound.trans small)]
  exact bound

theorem held_of_awaited {state : CallState} {slot : SlotId}
    (awaited : state.awaited = some slot) : state.held = some slot := by
  cases state with
  | awaiting =>
      exact awaited
  | popping | sending | returning | returned | timedOut | abandoned =>
      cases awaited

/-- Every packet of a slot has a call that waits for it. -/
def Exchange.Awaited (exchange : Exchange) : Prop :=
  ∀ slot, exchange.trail.countP (fun packet => packet.callSlot = slot) ≤
    exchange.calls.countP (Call.awaits slot)

/-- The call that waits for a packet, and holds its slot. -/
theorem Exchange.Awaited.exists_awaiting
    {exchange : Exchange} {slots : Multiset SlotId}
    (awaited : exchange.Awaited) (ok : exchange.Ok slots)
    {packet : Frame} {others : Multiset Frame}
    (onTrail : exchange.trail = packet ::ₘ others) :
    (∃ (index : Nat) (call : Call),
      exchange.calls[index]? = some call ∧
        call.state.awaited = some packet.callSlot) ∧
      packet.callSlot ∈ slots := by
  have bound := awaited packet.callSlot
  rw [onTrail, Multiset.countP_cons, if_pos rfl] at bound
  have waits :
      0 < exchange.calls.countP (Call.awaits packet.callSlot) := by
    omega
  obtain ⟨call, member, isAwaiting⟩ := List.countP_pos_iff.mp waits
  obtain ⟨index, found⟩ := List.mem_iff_getElem?.mp member
  have state := beq_iff_eq.mp isAwaiting
  have holds : 0 < exchange.calls.countP (Call.holds packet.callSlot) :=
    List.countP_pos_iff.mpr
      ⟨call, member, beq_iff_eq.mpr (held_of_awaited state)⟩
  have kept := ok.slots_kept packet.callSlot
  have counted : 0 < slots.count packet.callSlot := by omega
  exact ⟨⟨index, call, found, state⟩, Multiset.count_pos.mp counted⟩

section Responses

variable {Object : Type u} {config : Config}
variable {caller callee : End Object}

/-- The response channel and the slots are both part of the trail. -/
theorem trail_of_waiting (callee : End Object) {packet : Frame}
    (waiting :
      caller.multiplexer.responseChannel = some (.packet packet)) :
    ∃ others, (exchange caller callee).trail = packet ::ₘ others ∧
      caller.client.arrived ≤ others := by
  have left :=
    (packets_setResponseChannel caller waiting).trans
      (Multiset.singleton_add packet _)
  refine
    ⟨callee.multiplexer.packets .request + callee.server.packets +
      ((caller.setResponseChannel none).multiplexer.packets .response +
        caller.client.arrived), ?_, ?_⟩
  · unfold exchange
    simp only [left, Multiset.add_cons, Multiset.cons_add]
  · exact
      (Multiset.le_add_left _ _).trans (Multiset.le_add_left _ _)

/-- A response that somebody waits for finds its channel open and empty. -/
theorem Client.receive_of_awaited
    (kept : caller.client.ChannelsKept config)
    (ok : (exchange caller callee).Ok config.slots)
    (sorted : caller.Sorted)
    (awaited : (exchange caller callee).Awaited) {packet : Frame}
    (waiting :
      caller.multiplexer.responseChannel = some (.packet packet)) :
    ∃ client,
      caller.client.receive packet = some client ∧
        client.receiver = caller.client.receiver := by
  have nodup : (config.slots : Multiset SlotId).Nodup := config.nodup_slots
  have type := sorted.multiplexer.responses packet waiting
  have own := Frame.callSlot_of_response type
  obtain ⟨others, onTrail, arrivedLe⟩ :=
    trail_of_waiting callee waiting
  obtain ⟨_, alone⟩ := ok.exists_expecting nodup onTrail
  obtain ⟨⟨index, call, found, state⟩, inSlots⟩ :=
    awaited.exists_awaiting ok onTrail
  rw [own] at alone state inSlots
  have inRange :
      packet.slot.asUsize < caller.client.slotChannels.length := by
    rw [kept.length]
    exact Config.asUsize_lt inSlots
  have here := List.getElem?_eq_getElem inRange
  cases channel : caller.client.slotChannels[packet.slot.asUsize] with
  | empty =>
      rw [channel] at here
      simp only [Client.receive, here]
      exact ⟨_, rfl, rfl⟩
  | full other =>
      rw [channel] at here
      have full := sorted.client packet.slot.asUsize other here
      have sameSlot : other.callSlot = packet.slot :=
        (Frame.callSlot_of_response full.1).trans
          (SlotId.asUsize_injective full.2)
      have arrived : other ∈ caller.client.arrived := by
        refine Multiset.mem_coe.mpr (List.mem_filterMap.mpr ?_)
        exact ⟨.full other, List.mem_of_getElem? here, rfl⟩
      exact
        absurd sameSlot (alone other (Multiset.mem_of_le arrivedLe arrived))
  | closed =>
      rw [channel] at here
      obtain ⟨abandoned, among, dropped⟩ := kept.closed packet.slot here
      obtain ⟨position, foundThere⟩ := List.mem_iff_getElem?.mp among
      have alsoHolds : abandoned.state.held = some packet.slot := by
        rw [dropped]
        rfl
      obtain rfl :=
        ok.holder_unique nodup found (held_of_awaited state) foundThere
          alsoHolds
      cases found.symm.trans foundThere
      rw [dropped] at state
      cases state

end Responses

/-! ## The receiving threads -/

/-- The thread has told the server that the transport has failed. -/
def MultiplexerState.toldServer : MultiplexerState → Bool
  | .failingResponse | .ended => true
  | _ => false

def MultiplexerState.toldClient : MultiplexerState → Bool
  | .ended => true
  | _ => false

namespace End

variable {Object : Type u}

/-- No receiving thread has panicked. -/
structure Alive (context : End Object) : Prop where
  multiplexer : context.multiplexer.state ≠ .panicked
  client : context.client.receiver ≠ .panicked
  server : context.server.state ≠ .panicked

/-- What has been told is in the channel or has been heard. -/
structure Told (context : End Object) : Prop where
  server :
    context.multiplexer.state.toldServer = true ↔
      context.multiplexer.requestChannel = some .failure ∨
        context.server.state ≠ .receiving
  client :
    context.multiplexer.state.toldClient = true ↔
      context.multiplexer.responseChannel = some .failure ∨
        context.client.receiver ≠ .running

/-- The thread that receives for the client finds room for what it gets. -/
def Answers (context : End Object) : Prop :=
  ∀ packet, context.multiplexer.responseChannel = some (.packet packet) →
    context.client.receiver = .running →
      ∃ client, context.client.receive packet = some client ∧
        client.receiver = .running

end End

section Receivers

variable {Object : Type u} {config : Config} {context : End Object}

theorem Client.Moves.receiver
    {client : Client} {event : ClientEvent}
    {result : Client × List Frame}
    (moves : client.Moves config event result) :
    result.1.receiver = client.receiver := by
  cases moves <;> rfl

/-- The server goes from draining to its end, or stays where it is. -/
theorem Server.Moves.state
    {server : Server Object} {event : ServerEvent Object}
    {result : Server Object × List Frame}
    (moves : server.Moves config event result) :
    result.1.state = server.state ∨
      server.state = .draining ∧ result.1.state = .ended := by
  cases moves with
  | drained draining zero =>
      exact Or.inr ⟨draining, rfl⟩
  | startDelete | startCall | startPanics | destroyed | finishDelete
  | finish | crash | crashDelete | respond | respondPanics | account
  | popFront | insert | clear =>
      exact Or.inl rfl

/-- The server listens until it has been told. -/
theorem End.serverListens_of_not_told
    (told : context.Told)
    (untold : context.multiplexer.state.toldServer = false) :
    context.serverListens = true := by
  have receiving : context.server.state = .receiving := by
    by_contra stopped
    rw [told.server.mpr (Or.inr stopped)] at untold
    cases untold
  unfold End.serverListens
  rw [receiving]
  rfl

theorem End.clientListens_of_not_told
    (told : context.Told)
    (untold : context.multiplexer.state.toldClient = false) :
    context.clientListens = true := by
  have running : context.client.receiver = .running := by
    by_contra stopped
    rw [told.client.mpr (Or.inr stopped)] at untold
    cases untold
  unfold End.clientListens
  rw [running]
  rfl

/-- The thread that receives for both only talks to who still listens. -/
theorem Multiplexer.Moves.alive_told
    (alive : context.Alive) (told : context.Told)
    {event : MultiplexerEvent} {multiplexer : Multiplexer}
    (moves :
      context.multiplexer.Moves context.serverListens
        context.clientListens event multiplexer) :
    ({ context with multiplexer } : End Object).Alive ∧
      ({ context with multiplexer } : End Object).Told := by
  have heardServer := told.server
  have heardClient := told.client
  cases moves with
  | deliver index packet receiving found =>
      rw [receiving] at heardServer heardClient
      exact
        ⟨⟨by simp, alive.client, alive.server⟩, heardServer, heardClient⟩
  | fail receiving =>
      rw [receiving] at heardServer heardClient
      exact
        ⟨⟨by simp, alive.client, alive.server⟩, heardServer, heardClient⟩
  | forwardRequest packet holds type listens room =>
      rw [holds, room] at heardServer
      rw [holds] at heardClient
      refine
        ⟨⟨by simp, alive.client, alive.server⟩, ?_, heardClient⟩
      simpa [MultiplexerState.toldServer] using heardServer
  | forwardResponse packet holds type listens room =>
      rw [holds] at heardServer
      rw [holds, room] at heardClient
      refine
        ⟨⟨by simp, alive.client, alive.server⟩, heardServer, ?_⟩
      simpa [MultiplexerState.toldClient] using heardClient
  | forwardPanics packet holds deaf =>
      rcases deaf with ⟨_, deaf⟩ | ⟨_, deaf⟩
      · rw [End.serverListens_of_not_told told (by rw [holds]; rfl)] at deaf
        cases deaf
      · rw [End.clientListens_of_not_told told (by rw [holds]; rfl)] at deaf
        cases deaf
  | tellServer failing listens room =>
      rw [failing] at heardClient
      refine
        ⟨⟨by simp, alive.client, alive.server⟩, ?_, heardClient⟩
      simp [MultiplexerState.toldServer]
  | tellClient failing listens room =>
      rw [failing] at heardServer
      refine
        ⟨⟨by simp, alive.client, alive.server⟩, heardServer, ?_⟩
      simp [MultiplexerState.toldClient]
  | tellPanics deaf =>
      rcases deaf with ⟨failing, deaf⟩ | ⟨failing, deaf⟩
      · rw [End.serverListens_of_not_told told (by rw [failing]; rfl)]
          at deaf
        cases deaf
      · rw [End.clientListens_of_not_told told (by rw [failing]; rfl)]
          at deaf
        cases deaf

private theorem ended_of_gone {state : MultiplexerState}
    (alive : state ≠ .panicked) (gone : state.gone = true) :
    state = .ended := by
  cases state with
  | ended =>
      rfl
  | panicked =>
      exact absurd rfl alive
  | receiving | forwarding | failing | failingResponse =>
      cases gone

theorem End.Moves.alive_told
    (alive : context.Alive) (told : context.Told)
    (answers : context.Answers) {event : EndEvent Object}
    {result : End Object × List Frame}
    (moves : context.Moves config event result) :
    result.1.Alive ∧ result.1.Told := by
  have heardServer := told.server
  have heardClient := told.client
  cases moves with
  | client event result moves =>
      have receiver := moves.receiver
      rw [← receiver] at heardClient
      refine
        ⟨⟨alive.multiplexer, ?_, alive.server⟩, heardServer, heardClient⟩
      exact receiver ▸ alive.client
  | server event result moves =>
      rcases moves.state with same | ⟨draining, ended⟩
      · rw [← same] at heardServer
        refine
          ⟨⟨alive.multiplexer, alive.client, ?_⟩, heardServer, heardClient⟩
        exact same ▸ alive.server
      · rw [draining] at heardServer
        refine ⟨⟨alive.multiplexer, alive.client, ?_⟩, ?_, heardClient⟩
        · simp [ended]
        · simpa [ended] using heardServer
  | multiplexer event multiplexer moves =>
      exact moves.alive_told alive told
  | clientPacket packet client running waiting received =>
      obtain ⟨other, same, still⟩ := answers packet waiting running
      cases received.symm.trans same
      rw [waiting, running] at heardClient
      refine
        ⟨⟨alive.multiplexer, ?_, alive.server⟩, heardServer, ?_⟩
      · simp [still]
      · simpa [End.setResponseChannel, still] using heardClient
  | clientFailure running failure =>
      rw [failure] at heardClient
      refine ⟨⟨alive.multiplexer, by simp, alive.server⟩, heardServer, ?_⟩
      simpa [End.setResponseChannel] using heardClient
  | clientPanics running nothing gone =>
      have ended : context.multiplexer.state.toldClient = true := by
        rw [ended_of_gone alive.multiplexer gone]
        rfl
      rcases heardClient.mp ended with failure | stopped
      · rw [nothing] at failure
        cases failure
      · exact absurd running stopped
  | serverPacket packet receiving waiting =>
      rw [waiting, receiving] at heardServer
      refine
        ⟨⟨alive.multiplexer, alive.client, alive.server⟩, ?_, heardClient⟩
      simpa [End.setRequestChannel, Server.receive, receiving] using
        heardServer
  | serverFailure receiving failure =>
      rw [failure] at heardServer
      refine ⟨⟨alive.multiplexer, alive.client, by simp⟩, ?_, heardClient⟩
      simpa [End.setRequestChannel] using heardServer
  | serverPanics receiving nothing gone =>
      have ended : context.multiplexer.state.toldServer = true := by
        rw [ended_of_gone alive.multiplexer gone]
        rfl
      rcases heardServer.mp ended with failure | stopped
      · rw [nothing] at failure
        cases failure
      · exact absurd receiving stopped

/-- A receiving thread that still runs did so before. -/
theorem End.Moves.running
    {event : EndEvent Object} {result : End Object × List Frame}
    (moves : context.Moves config event result)
    (running : result.1.client.receiver = .running) :
    context.client.receiver = .running := by
  cases moves with
  | client event result moves =>
      rw [← moves.receiver]
      exact running
  | clientPacket packet client before waiting received =>
      exact before
  | clientFailure | clientPanics =>
      cases running
  | server | multiplexer | serverPacket | serverFailure | serverPanics =>
      exact running

/-- A call gives up waiting only after the receiving thread has stopped. -/
theorem End.Moves.stopped_of_disconnect
    {index : Nat} {result : End Object × List Frame}
    (moves : context.Moves config (.client (.disconnect index)) result) :
    context.client.receiver ≠ .running := by
  cases moves with
  | client event inner moves =>
      cases moves with
      | disconnect index request slot found nothing stopped =>
          exact stopped

end Receivers

section Runs

variable {Object : Type u} {config : Side → Config}
variable {connection : Connection Object}

/-- No send of a request reports a failure after the packet got out. -/
def HonestSends (_connection : Connection Object)
    (event : ConnectionEvent Object) : Prop :=
  ∀ call, event.event ≠ .client (.send call .failedAfterDelivery)

/-- What keeps the threads of the calling side alive. -/
structure Connection.Steady (config : Side → Config)
    (connection : Connection Object) (caller : Side) : Prop where
  kept :
    (connection.ends caller).client.ChannelsKept (config caller)
  alive : (connection.ends caller).Alive
  told : (connection.ends caller).Told
  awaited :
    (connection.ends caller).client.receiver = .running →
      (connection.exchange caller).Awaited

theorem Connection.Steady.answers
    (steady : connection.Steady config caller)
    (reachable : (connectionSystem Object config).Reachable connection) :
    (connection.ends caller).Answers := by
  intro packet waiting running
  have ok :=
    Exchange.ok_of_reachable
      (Connection.reachable_exchange reachable caller)
  have sorted := Connection.sorted_of_reachable reachable caller
  obtain ⟨client, received, same⟩ :=
    Client.receive_of_awaited steady.kept ok sorted
      (steady.awaited running) waiting
  exact ⟨client, received, same.trans running⟩

/-- While the thread that receives for the client runs, no step strands a
packet. -/
theorem Connection.StepsTo.keeps
    {source target : Connection Object} {event : ConnectionEvent Object}
    {packets : List Frame}
    (taken : source.StepsTo config event target packets)
    (honest : HonestSends source event) {caller : Side}
    (running : (source.ends caller).client.receiver = .running)
    {deed : ExchangeEvent}
    (excused :
      End.Excuses (event.side = caller) event.event
        (target.ends event.side) deed) : ¬ deed.Strands := by
  intro strands
  cases deed with
  | abandon index escaped =>
      cases escaped with
      | true =>
          exact honest index excused.2
      | false =>
          exact strands
  | disconnect index =>
      obtain ⟨rfl, same⟩ := excused
      have step := taken.moves
      rw [same] at step
      exact step.stopped_of_disconnect running
  | invoke | pop | timeOut | send | execute | lose | takeResponse
  | release =>
      exact strands

private theorem awaited_of_stepsTo
    {source target : Connection Object} {event : ConnectionEvent Object}
    {packets : List Frame}
    (reachable : (connectionSystem Object config).Reachable source)
    (honest : HonestSends source event)
    (taken : source.StepsTo config event target packets) (caller : Side)
    (running : (source.ends caller).client.receiver = .running)
    (awaited : (source.exchange caller).Awaited) :
    (target.exchange caller).Awaited := by
  have ok :=
    Exchange.ok_of_reachable
      (Connection.reachable_exchange reachable caller)
  have sorted := Connection.sorted_of_reachable reachable
  rcases taken.advances sorted caller ok with same | ⟨deed, excused, moves⟩
  · rw [same]
    exact awaited
  · have keeps := taken.keeps honest running excused
    intro slot
    have changed := moves.trail_add_awaits keeps slot
    have before := awaited slot
    omega

private theorem steady_new
    {source : Connection Object}
    (begins : (connectionSystem Object config).initial source)
    (caller : Side) : source.Steady config caller := by
  obtain ⟨metaService, serviceObject, own⟩ := begins caller
  have reached :=
    Connection.reachable_exchange
      (TransitionSystem.ReachableWhere.start begins) caller
  refine
    { kept := ?_, alive := ?_, told := ?_, awaited := ?_ }
  · rw [own]
    exact Client.channelsKept_new (config caller)
  · rw [own]
    exact ⟨by simp [End.new, Multiplexer.new],
      by simp [End.new, Client.new], by simp [End.new, Server.new]⟩
  · rw [own]
    constructor
    · simp [End.new, Multiplexer.new, Server.new,
        MultiplexerState.toldServer]
    · simp [End.new, Multiplexer.new, Client.new,
        MultiplexerState.toldClient]
  · intro _ slot
    have bound := (Exchange.ok_of_reachable reached).trail_le slot
    have calls : (source.exchange caller).calls = [] := by
      show (source.ends caller).client.calls = []
      rw [own]
      rfl
    rw [calls] at bound ⊢
    exact bound

theorem Connection.steady_of_reachable
    (reached :
      (connectionSystem Object config).ReachableWhere HonestSends
        connection) (caller : Side) :
    connection.Steady config caller := by
  refine
    reached.invariant_of_reached
      (fun source begins => steady_new begins caller) ?_
  intro source event target before steady honest stepped
  obtain ⟨packets, taken⟩ := Connection.stepsTo_of_step stepped
  have answers := steady.answers before.reachable
  have awaited :
      (source.ends caller).client.receiver = .running →
        (target.exchange caller).Awaited :=
    fun running =>
      awaited_of_stepsTo before.reachable honest taken caller running
        (steady.awaited running)
  obtain ⟨side, inner⟩ := event
  rcases side.eq_or_eq_other caller with rfl | rfl
  · obtain ⟨alive, told⟩ :=
      taken.moves.alive_told steady.alive steady.told answers
    exact
      { kept := taken.moves.channelsKept steady.kept
        alive := alive
        told := told
        awaited := fun running => awaited (taken.moves.running running) }
  · have deposited := taken.deposited
    simp only [Side.other_other] at deposited
    have client :
        (target.ends caller).client = (source.ends caller).client := by
      rw [deposited]
      rfl
    refine
      { kept := client ▸ steady.kept
        alive := ?_
        told := ?_
        awaited := fun running => awaited (client ▸ running) }
    · rw [deposited]
      exact
        ⟨steady.alive.multiplexer, steady.alive.client,
          steady.alive.server⟩
    · rw [deposited]
      exact ⟨steady.told.server, steady.told.client⟩

/-- As long as no send reports a failure for a packet that got out, none of
the receiving threads panics, and the thread that hands responses to their
slots never has to wait. -/
theorem receiving_threads_never_panic
    (reached :
      (connectionSystem Object config).ReachableWhere HonestSends
        connection) (side : Side) :
    (connection.ends side).Alive ∧
      ∀ packet,
        (connection.ends side).multiplexer.responseChannel =
            some (.packet packet) →
          (connection.ends side).client.receiver = .running →
            ∃ client,
              (connection.ends side).client.receive packet = some client ∧
                client.receiver = .running := by
  have steady := Connection.steady_of_reachable reached side
  exact ⟨steady.alive, steady.answers reached.reachable⟩

end Runs

/-- The response to the call waits in its channel. -/
def arrivingConnection : Connection Nat :=
  ((connectionSystem Nat fun _ => smallConfig).run freshConnection
    (oneCall.take 11)).get (by decide)

theorem arrivingConnection_honest :
    (connectionSystem Nat fun _ => smallConfig).ReachableWhere HonestSends
      arrivingConnection := by
  refine ⟨freshConnection, freshConnection_initial, ?_⟩
  refine
    TransitionSystem.runsWhere_of_forall_mem
      (Option.some_get (by decide :
        ((connectionSystem Nat fun _ => smallConfig).run freshConnection
          (oneCall.take 11)).isSome)).symm ?_
  simp [oneCall, HonestSends]

theorem receiving_threads_never_panic_arrivingConnection :
    (arrivingConnection.ends .left).multiplexer.responseChannel.isSome ∧
      (arrivingConnection.ends .left).Alive ∧
        ∀ packet,
          (arrivingConnection.ends .left).multiplexer.responseChannel =
              some (.packet packet) →
            (arrivingConnection.ends .left).client.receiver = .running →
              ∃ client,
                (arrivingConnection.ends .left).client.receive packet =
                    some client ∧
                  client.receiver = .running :=
  ⟨by decide, receiving_threads_never_panic arrivingConnection_honest .left⟩

/-- A send that reports a failure and gets out all the same stops the thread
that receives for the client. -/
example :
    (((connectionSystem Nat fun _ => smallConfig).run freshConnection
        [⟨.left,
            .client (.invoke ⟨.newRequest, initialServiceObjectId, 70, []⟩)⟩,
          ⟨.left, .client (.pop 0)⟩,
          ⟨.left, .client (.send 0 .failedAfterDelivery)⟩,
          ⟨.right, .multiplexer (.deliver 0)⟩,
          ⟨.right, .multiplexer .forward⟩,
          ⟨.right, .serverReceive⟩,
          ⟨.right, .server (.start 0)⟩,
          ⟨.right, .server (.finish 0 [])⟩,
          ⟨.right, .server (.respond 0 .sent)⟩,
          ⟨.left, .multiplexer (.deliver 0)⟩,
          ⟨.left, .multiplexer .forward⟩,
          ⟨.left, .clientReceive⟩]).map fun connection =>
        (connection.ends .left).client.receiver) = some .panicked := by
  decide

/-! ## The end of the server -/

def Task.Finished {Object : Type u} (task : Task Object) : Prop :=
  ∃ result, task.state = .finished result

/-- The count is that of the requests that are not finished, and the server
ends at zero. -/
structure Server.Counted {Object : Type u} (server : Server Object) :
    Prop where
  count : server.count = server.tasks.countP Task.counted
  ended : server.state = .ended → server.count = 0

section Draining

variable {Object : Type u} {config : Config}

theorem Task.counted_eq_false_iff (task : Task Object) :
    task.counted = false ↔ task.Finished := by
  unfold Task.counted Task.Finished
  cases task.state <;> simp

theorem Server.count_eq_zero_iff
    {server : Server Object} (counted : server.Counted) :
    server.count = 0 ↔ ∀ task ∈ server.tasks, task.Finished := by
  rw [counted.count, Int.natCast_eq_zero, List.countP_eq_zero]
  refine forall₂_congr ?_
  intro task member
  rw [Bool.not_eq_true]
  exact task.counted_eq_false_iff

/-- A task that changes and stays in the count. -/
private theorem counted_setTask
    {server later : Server Object} (counted : server.Counted) {index : Nat}
    {task next : Task Object}
    (found : server.tasks[index]? = some task)
    (before : task.counted = true) (after : next.counted = true)
    (tasks : later.tasks = server.tasks.set index next)
    (count : later.count = server.count)
    (state : later.state = server.state) : later.Counted := by
  have changed := countP_set_add Task.counted found next
  rw [if_pos before, if_pos after] at changed
  refine ⟨?_, ?_⟩
  · rw [count, counted.count, tasks]
    omega
  · rw [count, state]
    exact counted.ended

theorem Server.Counted.moves
    {server : Server Object} (counted : server.Counted)
    {event : ServerEvent Object} {result : Server Object × List Frame}
    (moves : server.Moves config event result) : result.1.Counted := by
  cases moves with
  | startDelete _ _ _ found | startCall _ _ _ found | startPanics _ _ found
  | destroyed _ _ found | finishDelete _ _ _ found | finish _ _ _ _ found
  | crash _ _ _ found | crashDelete _ _ found
  | respond _ _ _ _ _ found | respondPanics _ _ _ _ found =>
      exact counted_setTask counted found rfl rfl rfl rfl rfl
  | account index request value found =>
      have changed :=
        countP_set_add Task.counted found ⟨request, .finished value⟩
      have before :
          (Task.mk request (.accounting value : TaskState Object)).counted =
            true :=
        rfl
      have after :
          (Task.mk request (.finished value : TaskState Object)).counted =
            false :=
        rfl
      rw [before, after] at changed
      simp only [if_true, Bool.false_eq_true, if_false] at changed
      have count := counted.count
      refine ⟨?_, ?_⟩
      · simp only [Server.setTask]
        omega
      · intro ended
        have zero := counted.ended ended
        omega
  | drained draining zero =>
      exact ⟨counted.count, fun _ => zero⟩
  | popFront | insert | clear =>
      exact ⟨counted.count, counted.ended⟩

theorem Server.Counted.receive
    {server : Server Object} (counted : server.Counted)
    (receiving : server.state = .receiving) (packet : Frame) :
    (server.receive packet).Counted := by
  refine ⟨?_, ?_⟩
  · have count := counted.count
    simp only [Server.receive, List.countP_append]
    rw [count]
    rfl
  · intro ended
    cases receiving.symm.trans ended

theorem End.Moves.counted
    {context : End Object} (counted : context.server.Counted)
    {event : EndEvent Object} {result : End Object × List Frame}
    (moves : context.Moves config event result) :
    result.1.server.Counted := by
  cases moves with
  | server event result moves =>
      exact counted.moves moves
  | serverPacket packet receiving waiting =>
      exact counted.receive receiving packet
  | serverFailure | serverPanics =>
      refine ⟨counted.count, ?_⟩
      intro ended
      cases ended
  | client | multiplexer | clientPacket | clientFailure | clientPanics =>
      exact counted

/-- A method or a destructor has panicked at the server. -/
def Server.Crashed (server : Server Object) : Prop :=
  ∃ task ∈ server.tasks, task.state = .panicked

private theorem crashed_setTask
    {server later : Server Object} (crashed : server.Crashed) {index : Nat}
    {task next : Task Object}
    (found : server.tasks[index]? = some task)
    (active : task.state ≠ .panicked)
    (tasks : later.tasks = server.tasks.set index next) :
    later.Crashed := by
  obtain ⟨other, member, panicked⟩ := crashed
  refine ⟨other, ?_, panicked⟩
  rw [tasks]
  refine mem_set_of_ne found next member ?_
  rintro rfl
  exact active panicked

theorem Server.Crashed.moves
    {server : Server Object} (crashed : server.Crashed)
    {event : ServerEvent Object} {result : Server Object × List Frame}
    (moves : server.Moves config event result) : result.1.Crashed := by
  cases moves with
  | startDelete _ _ _ found | startCall _ _ _ found | startPanics _ _ found
  | destroyed _ _ found | finishDelete _ _ _ found | finish _ _ _ _ found
  | crash _ _ _ found | crashDelete _ _ found
  | respond _ _ _ _ _ found | respondPanics _ _ _ _ found
  | account _ _ _ found =>
      exact crashed_setTask crashed found (by simp) rfl
  | drained | popFront | insert | clear =>
      exact crashed

theorem End.Moves.crashed
    {context : End Object} (crashed : context.server.Crashed)
    {event : EndEvent Object} {result : End Object × List Frame}
    (moves : context.Moves config event result) :
    result.1.server.Crashed := by
  cases moves with
  | server event result moves =>
      exact crashed.moves moves
  | serverPacket packet receiving waiting =>
      obtain ⟨task, member, panicked⟩ := crashed
      exact ⟨task, List.mem_append_left _ member, panicked⟩
  | client | multiplexer | clientPacket | clientFailure | clientPanics
  | serverFailure | serverPanics =>
      exact crashed

end Draining

section Shutdowns

variable {Object : Type u} {config : Side → Config}
variable {connection : Connection Object}

/-- The server of one side, whichever side takes the step. -/
theorem Connection.StepsTo.server_cases
    {source target : Connection Object} {event : ConnectionEvent Object}
    {packets : List Frame}
    (taken : source.StepsTo config event target packets) (side : Side) :
    (∃ inner sent, (source.ends side).Moves (config side) inner
        (target.ends side, sent)) ∨
      (target.ends side).server = (source.ends side).server := by
  obtain ⟨mover, inner⟩ := event
  rcases mover.eq_or_eq_other side with rfl | rfl
  · exact Or.inl ⟨inner, packets, taken.moves⟩
  · have deposited := taken.deposited
    simp only [Side.other_other] at deposited
    refine Or.inr ?_
    rw [deposited]
    rfl

def Connection.Counted (connection : Connection Object) : Prop :=
  ∀ side, (connection.ends side).server.Counted

theorem Connection.counted_of_reachable
    (reachable : (connectionSystem Object config).Reachable connection) :
    connection.Counted := by
  refine reachable.invariant ?_ ?_
  · intro source begins side
    obtain ⟨metaService, serviceObject, same⟩ := begins side
    rw [same]
    refine ⟨rfl, ?_⟩
    intro ended
    cases ended
  · intro source event target counted stepped side
    obtain ⟨packets, taken⟩ := Connection.stepsTo_of_step stepped
    rcases taken.server_cases side with ⟨inner, sent, moves⟩ | same
    · exact moves.counted (counted side)
    · rw [same]
      exact counted side

/-- A server that waits for its requests can end exactly when all of them
are finished, and has finished all of them when it has ended. -/
theorem server_ends_exactly_when_finished
    (reachable : (connectionSystem Object config).Reachable connection)
    (side : Side) :
    (((connection.ends side).server.step (config side) .drained).isSome ↔
        (connection.ends side).server.state = .draining ∧
          ∀ task ∈ (connection.ends side).server.tasks, task.Finished) ∧
      ((connection.ends side).server.state = .ended →
        ∀ task ∈ (connection.ends side).server.tasks, task.Finished) := by
  have counted := Connection.counted_of_reachable reachable side
  have zero := Server.count_eq_zero_iff counted
  constructor
  · rw [← zero]
    unfold Server.step
    cases state : (connection.ends side).server.state with
    | draining =>
        by_cases none : (connection.ends side).server.count = 0
        · simp [none]
        · simp [none]
    | receiving | ended | panicked =>
        simp
  · intro ended
    exact zero.mp (counted.ended ended)

theorem server_ends_exactly_when_finished_answeredConnection :
    (((answeredConnection.ends .right).server.step smallConfig
          .drained).isSome ↔
        (answeredConnection.ends .right).server.state = .draining ∧
          ∀ task ∈ (answeredConnection.ends .right).server.tasks,
            task.Finished) ∧
      ((answeredConnection.ends .right).server.state = .ended →
        ∀ task ∈ (answeredConnection.ends .right).server.tasks,
          task.Finished) :=
  server_ends_exactly_when_finished answeredConnection_reachable .right

def Connection.Crashed (side : Side) (connection : Connection Object) :
    Prop :=
  (connection.ends side).server.Crashed

theorem Connection.crashed_of_runs
    {source target : Connection Object} {side : Side}
    (runs :
      (connectionSystem Object config).RunsWhere
        TransitionSystem.anyEvent source target)
    (crashed : source.Crashed side) : target.Crashed side := by
  refine runs.preserves ?_ crashed
  intro before event after crashed _ stepped
  obtain ⟨packets, taken⟩ := Connection.stepsTo_of_step stepped
  rcases taken.server_cases side with ⟨inner, sent, moves⟩ | same
  · exact moves.crashed crashed
  · unfold Connection.Crashed
    rw [same]
    exact crashed

/-- Once a method of a server has panicked, the server never ends. -/
theorem crashed_server_never_ends
    {source target : Connection Object} {side : Side}
    (reachable : (connectionSystem Object config).Reachable source)
    (crashed : source.Crashed side)
    (runs :
      (connectionSystem Object config).RunsWhere
        TransitionSystem.anyEvent source target) :
    (target.ends side).server.state ≠ .ended := by
  intro ended
  have counted :=
    Connection.counted_of_reachable (reachable.extend runs) side
  obtain ⟨task, member, panicked⟩ := Connection.crashed_of_runs runs crashed
  obtain ⟨result, finished⟩ :=
    (Server.count_eq_zero_iff counted).mp (counted.ended ended) task member
  rw [panicked] at finished
  cases finished

end Shutdowns

/-- The right end is in the middle of a call and its method panics. -/
def methodPanics : List (ConnectionEvent Nat) :=
  oneCall.take 7 ++ [⟨.right, .server (.crash 0)⟩]

/-- Then its transport fails, and the server hears of it. -/
def transportFails : List (ConnectionEvent Nat) :=
  [⟨.right, .multiplexer .fail⟩, ⟨.right, .multiplexer .forward⟩,
    ⟨.right, .serverReceive⟩]

def crashedConnection : Connection Nat :=
  ((connectionSystem Nat fun _ => smallConfig).run freshConnection
    methodPanics).get (by decide)

def stuckConnection : Connection Nat :=
  ((connectionSystem Nat fun _ => smallConfig).run crashedConnection
    transportFails).get (by decide)

theorem crashed_server_never_ends_stuckConnection :
    (stuckConnection.ends .right).server.state ≠ .ended :=
  crashed_server_never_ends
    (TransitionSystem.reachable_of_run freshConnection_initial
      (by decide : ((connectionSystem Nat fun _ => smallConfig).run
        freshConnection methodPanics).isSome))
    ⟨_, List.mem_cons_self, rfl⟩
    (TransitionSystem.runsWhere_of_run
      (Option.some_get
        (by decide : ((connectionSystem Nat fun _ => smallConfig).run
          crashedConnection transportFails).isSome)).symm)

end CloudP2P.Rpc
