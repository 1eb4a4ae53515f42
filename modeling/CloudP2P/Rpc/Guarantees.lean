import CloudP2P.Rpc.Directions

/-!
# What a connection guarantees to its callers

In every reachable state of a connection, whatever gets lost and whichever
thread panics: no slot is used twice, the queue of free slots has room for
every slot that comes back, and the calls of either side are calls that are
executed at most once and get the results of their own executions.
-/

universe u

namespace CloudP2P.Rpc

/-! ## Slots -/

section Slots

variable {Object : Type u} {config : Side → Config}
variable {connection : Connection Object}

theorem count_slots (config : Config) (slot : SlotId) :
    config.slots.count slot = if slot ∈ config.slots then 1 else 0 := by
  by_cases member : slot ∈ config.slots
  · rw [if_pos member]
    exact List.count_eq_one_of_mem config.nodup_slots member
  · rw [if_neg member]
    exact List.count_eq_zero_of_not_mem member

theorem Connection.count_callSlots
    (reachable : (connectionSystem Object config).Reachable connection)
    (caller : Side) (slot : SlotId) :
    (connection.ends caller).client.callSlots.count slot +
        (connection.ends caller).client.calls.countP (Call.holds slot) =
      if slot ∈ (config caller).slots then 1 else 0 := by
  have ok :=
    Exchange.ok_of_reachable
      (Connection.reachable_exchange reachable caller)
  have kept := ok.slots_kept slot
  simp only [Connection.exchange, Rpc.exchange, Multiset.coe_count,
    count_slots] at kept
  exact kept

/-- The slots of the queue are fewer than all when a call holds one. -/
theorem length_callSlots_lt
    {client : Client} {config : Config} {slot : SlotId}
    (once : ∀ slot,
      client.callSlots.count slot + client.calls.countP (Call.holds slot) =
        if slot ∈ config.slots then 1 else 0)
    (held : 0 < client.calls.countP (Call.holds slot)) :
    client.callSlots.length < config.slotCount := by
  have nodup : (slot :: client.callSlots).Nodup := by
    rw [List.nodup_cons, List.nodup_iff_count_le_one]
    constructor
    · intro member
      have counted := List.count_pos_iff.mpr member
      have atMostOne := once slot
      split at atMostOne <;> omega
    · intro other
      have atMostOne := once other
      split at atMostOne <;> omega
  have among : slot :: client.callSlots ⊆ config.slots := by
    intro other member
    by_contra outside
    have nothing := once other
    rw [if_neg outside] at nothing
    rcases List.mem_cons.mp member with rfl | queued
    · omega
    · have counted := List.count_pos_iff.mpr queued
      omega
  have fewer := (List.subperm_of_subset nodup among).length_le
  have all : config.slots.length = config.slotCount := by
    rw [Config.slots, List.length_map, List.length_range]
  rw [List.length_cons, all] at fewer
  exact fewer

/-- Every slot of a context is either free or held by exactly one call; so
no call ever shares a slot, and giving one back never blocks. -/
theorem slots_are_conserved
    (reachable : (connectionSystem Object config).Reachable connection)
    (caller : Side) :
    (∀ slot,
      (connection.ends caller).client.callSlots.count slot +
          (connection.ends caller).client.calls.countP (Call.holds slot) =
        if slot ∈ (config caller).slots then 1 else 0) ∧
      ∀ index request response slot,
        (connection.ends caller).client.calls[index]? =
            some ⟨request, .returning slot response⟩ →
          ((connection.ends caller).client.step (config caller)
            (.release index)).isSome := by
  have once := Connection.count_callSlots reachable caller
  refine ⟨once, ?_⟩
  intro index request response slot found
  have held :
      0 < (connection.ends caller).client.calls.countP (Call.holds slot) :=
    List.countP_pos_iff.mpr
      ⟨_, List.mem_of_getElem? found, beq_iff_eq.mpr rfl⟩
  have room := length_callSlots_lt once held
  simp only [Client.step, found, if_pos room, Option.isSome_some]

end Slots

theorem slots_are_conserved_answeredConnection :
    (∀ slot,
      (answeredConnection.ends .left).client.callSlots.count slot +
          (answeredConnection.ends .left).client.calls.countP
            (Call.holds slot) =
        if slot ∈ smallConfig.slots then 1 else 0) ∧
      ∀ index request response slot,
        (answeredConnection.ends .left).client.calls[index]? =
            some ⟨request, .returning slot response⟩ →
          ((answeredConnection.ends .left).client.step smallConfig
            (.release index)).isSome :=
  slots_are_conserved answeredConnection_reachable .left

/-! ## Calls -/

namespace Client

variable (client : Client)

/-- What the calls ask for. -/
def requests : Multiset Content :=
  (client.calls.map fun call => call.request.content : List Content)

end Client

/-- What a call asked for and what it got. -/
def Call.answer (call : Call) : Option (Content × Bytes) :=
  match call.state with
  | .returned response => some (call.request.content, response.data)
  | _ => none

/-- The call has panicked. -/
def Call.failed (call : Call) : Bool :=
  match call.state with
  | .timedOut | .abandoned _ => true
  | _ => false

def Client.answers (client : Client) : Multiset (Content × Bytes) :=
  (client.calls.filterMap Call.answer : List (Content × Bytes))

/-- A call and the call that is executed at most once. -/
structure StandsFor (call : Call) (remote : RemoteCall Content Bytes) :
    Prop where
  request : remote.request = call.request.content
  answer : remote.answer = call.answer
  failed : remote.outcome = .failed ↔ call.failed = true
  answered : remote.outcome = .answered ↔ call.answer.isSome

namespace Exchange

theorem Linked.standsFor
    {trail : Multiset Frame} {call : Call}
    {remote : RemoteCall Content Bytes}
    (linked : Linked trail call remote) : StandsFor call remote := by
  obtain ⟨asks, progress⟩ := linked
  obtain ⟨request, state⟩ := call
  obtain ⟨asked, executed, outcome⟩ := remote
  have unanswered (pending : outcome ≠ .answered) :
      RemoteCall.answer ⟨asked, executed, outcome⟩ = none :=
    if_neg pending
  cases state with
  | returned response =>
      obtain ⟨rfl, rfl⟩ := progress
      cases asks
      exact ⟨rfl, rfl, by simp [Call.failed], by simp [Call.answer]⟩
  | popping | sending | awaiting | returning =>
      obtain ⟨_, rfl⟩ := progress
      exact
        ⟨asks, unanswered (by decide), by simp [Call.failed],
          by simp [Call.answer]⟩
  | timedOut | abandoned =>
      obtain ⟨_, rfl⟩ := progress
      exact
        ⟨asks, unanswered (by decide), by simp [Call.failed],
          by simp [Call.answer]⟩

end Exchange

section Calls

variable {Object : Type u} {config : Side → Config}
variable {connection : Connection Object}

/-- The calls of one side stand for remote calls one by one, and what the
other side has executed is what those have executed. -/
structure Connection.Implements (connection : Connection Object)
    (caller : Side) (remotes : List (RemoteCall Content Bytes)) : Prop where
  length : remotes.length = (connection.ends caller).client.calls.length
  standsFor :
    ∀ (index : Nat) call remote,
      (connection.ends caller).client.calls[index]? = some call →
        remotes[index]? = some remote → StandsFor call remote
  executed :
    (connection.ends caller.other).server.log =
      (remotes.filterMap RemoteCall.execution :
        Multiset (Content × Bytes))

theorem Connection.exists_implements
    (reachable : (connectionSystem Object config).Reachable connection)
    (caller : Side) :
    ∃ remotes,
      (remoteCallSystem Content Bytes).Reachable remotes ∧
        connection.Implements caller remotes := by
  have nodup : ((config caller).slots : Multiset SlotId).Nodup :=
    (config caller).nodup_slots
  obtain ⟨remotes, reached, related⟩ :=
    Exchange.exists_related nodup
      (Connection.reachable_exchange reachable caller)
  refine ⟨remotes, reached, related.length, ?_, related.log⟩
  intro index call remote found foundRemote
  exact (related.linked index call remote found foundRemote).standsFor

/-- Two lists that correspond entry by entry. -/
private theorem map_eq_of_corresponding
    {Left Right Image : Type} {left : List Left} {right : List Right}
    {ofLeft : Left → Image} {ofRight : Right → Image}
    (length : right.length = left.length)
    (same : ∀ (index : Nat) leftItem rightItem,
      left[index]? = some leftItem → right[index]? = some rightItem →
        ofRight rightItem = ofLeft leftItem) :
    right.map ofRight = left.map ofLeft := by
  refine List.ext_getElem (by simp [length]) ?_
  intro index rightValid leftValid
  rw [List.length_map] at rightValid leftValid
  rw [List.getElem_map, List.getElem_map]
  exact
    same index _ _ (List.getElem?_eq_getElem leftValid)
      (List.getElem?_eq_getElem rightValid)

variable {caller : Side} {remotes : List (RemoteCall Content Bytes)}

theorem Connection.Implements.answers
    (implements : connection.Implements caller remotes) :
    (remotes.filterMap RemoteCall.answer :
        Multiset (Content × Bytes)) =
      (connection.ends caller).client.answers := by
  have corresponding :
      remotes.map RemoteCall.answer =
        (connection.ends caller).client.calls.map Call.answer :=
    map_eq_of_corresponding implements.length
      fun index call remote found foundRemote =>
        (implements.standsFor index call remote found foundRemote).answer
  have selected := congrArg (List.filterMap id) corresponding
  rw [List.filterMap_map, List.filterMap_map] at selected
  exact congrArg _ selected

theorem Connection.Implements.requests
    (implements : connection.Implements caller remotes) :
    (remotes.map RemoteCall.request : Multiset Content) =
      (connection.ends caller).client.requests :=
  congrArg _ <|
    map_eq_of_corresponding implements.length
      fun index call remote found foundRemote =>
        (implements.standsFor index call remote found foundRemote).request

/-- The calls of either side of a connection refine calls that are executed
at most once. -/
theorem connection_refines_remoteCalls
    (reachable : (connectionSystem Object config).Reachable connection)
    (caller : Side) :
    ∃ remotes,
      (remoteCallSystem Content Bytes).Reachable remotes ∧
        connection.Implements caller remotes :=
  Connection.exists_implements reachable caller

/-- Every answer is the result of an execution of its own, and every
execution carries out a request of its own. -/
theorem answers_le_executions_le_requests
    (reachable : (connectionSystem Object config).Reachable connection)
    (caller : Side) :
    (connection.ends caller).client.answers ≤
        (connection.ends caller.other).server.log ∧
      (connection.ends caller.other).server.log.map Prod.fst ≤
        (connection.ends caller).client.requests := by
  obtain ⟨remotes, _, implements⟩ :=
    Connection.exists_implements reachable caller
  rw [← implements.answers, ← implements.requests, implements.executed]
  exact
    ⟨RemoteCall.answers_le_executions remotes,
      RemoteCall.executions_le_requests remotes⟩

end Calls

theorem connection_refines_remoteCalls_answeredConnection :
    ∃ remotes,
      (remoteCallSystem Content Bytes).Reachable remotes ∧
        answeredConnection.Implements .left remotes :=
  connection_refines_remoteCalls answeredConnection_reachable .left

theorem answers_le_executions_le_requests_answeredConnection :
    (answeredConnection.ends .left).client.answers ≤
        (answeredConnection.ends .right).server.log ∧
      (answeredConnection.ends .right).server.log.map Prod.fst ≤
        (answeredConnection.ends .left).client.requests :=
  answers_le_executions_le_requests answeredConnection_reachable .left

end CloudP2P.Rpc
