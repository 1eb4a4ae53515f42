import CloudP2P.Rpc.Proxy

/-!
# Answers come from the object that was called

A call is made on a proxy, but its request names an id only.  While the call
is under way the id stays with the object behind the proxy, so the method
that runs for the call is one of that object, and what the call returns is
what that method has made of its arguments.  This holds whatever gets lost
and whichever thread panics.
-/

universe u

namespace CloudP2P.Rpc

/-! ## Requests on their way -/

section Requests

variable {Object : Type u} {config : Side → Config}
variable {connection : Connection Object}

/-- The call that waits for the answer to a request. -/
structure Connection.Asks (connection : Connection Object) (caller : Side)
    (request : Frame) (index : Nat) (call : Call) : Prop where
  found : (connection.ends caller).client.calls[index]? = some call
  state : call.state = .awaiting request.callSlot
  content : call.request.content = request.content

/-- Who waits under the slot of a request has asked for it. -/
theorem Connection.asks_of_awaiting
    (reachable : (connectionSystem Object config).Reachable connection)
    {caller : Side} {request : Frame}
    (type : request.slot.getType = .request)
    (member : request ∈ (connection.exchange caller).trail)
    {index : Nat} {call : Call}
    (found : (connection.ends caller).client.calls[index]? = some call)
    (waits : call.state.awaited = some request.callSlot) :
    connection.Asks caller request index call := by
  have reached := Connection.reachable_exchange reachable caller
  have nodup : ((config caller).slots : Multiset SlotId).Nodup :=
    (config caller).nodup_slots
  obtain ⟨remotes, _, related⟩ := Exchange.exists_related nodup reached
  obtain ⟨remote, _, linked⟩ := related.exists_remote found
  have state : call.state = .awaiting request.callSlot := by
    cases here : call.state with
    | awaiting slot =>
        rw [here] at waits
        injection waits with same
        rw [same]
    | popping | sending | returning | returned | timedOut | abandoned =>
        rw [here] at waits
        cases waits
  have expected : call.state.expected = some request.callSlot := by
    rw [state]
    rfl
  have asks :=
    (linked.progress.onTrail expected).request request member rfl type
  exact ⟨found, state, linked.request.symm.trans asks.1.symm⟩

theorem Connection.exists_asks
    (reachable : (connectionSystem Object config).Reachable connection)
    {caller : Side} (awaited : (connection.exchange caller).Awaited)
    {request : Frame} (type : request.slot.getType = .request)
    (member : request ∈ (connection.exchange caller).trail) :
    ∃ index call, connection.Asks caller request index call := by
  have reached := Connection.reachable_exchange reachable caller
  obtain ⟨others, onTrail⟩ := Multiset.exists_cons_of_mem member
  obtain ⟨⟨index, call, found, waits⟩, _⟩ :=
    awaited.exists_awaiting (Exchange.ok_of_reachable reached) onTrail
  exact
    ⟨index, call,
      Connection.asks_of_awaiting reachable type member found waits⟩

/-- The request of a task is on the trail until the task has its result. -/
theorem Connection.mem_trail_of_task
    (reachable : (connectionSystem Object config).Reachable connection)
    {caller : Side} {task : Task Object}
    (member : task ∈ (connection.ends caller.other).server.tasks)
    (holds : task.packet = some task.request) :
    task.request ∈ (connection.exchange caller).trail ∧
      task.request.slot.getType = .request := by
  have sorted := Connection.sorted_of_reachable reachable caller.other
  have handled :
      task.request ∈ (connection.ends caller.other).server.packets :=
    Multiset.mem_coe.mpr (List.mem_filterMap.mpr ⟨task, member, holds⟩)
  refine ⟨?_, sorted.server task member⟩
  exact
    Multiset.mem_add.mpr
      (Or.inl (Multiset.mem_add.mpr (Or.inr handled)))

end Requests

/-! ## Calls and the proxies that they are made on -/

/-- A call of a method that is under way is made on a proxy that is held. -/
structure Custody.Aimed {Object : Type u} (custody : Custody Object)
    (connection : Connection Object) (side : Side) : Prop where
  length :
    custody.targets.length =
      (connection.ends side).client.calls.length
  targets :
    ∀ (index : Nat) call target,
      (connection.ends side).client.calls[index]? = some call →
        custody.targets[index]? = some target →
          call.request.method ≠ deleteRequest → call.ended = false →
            (call.request.serviceObjectId, target) ∈ custody.held

section Aiming

variable {Object : Type u} {config : Side → Config}
variable {custody : Custody Object} {source target : Connection Object}
variable {side : Side} {event : ConnectionEvent Object}
variable {packets : List Frame}

/-- The proxy of a call that waits for an answer. -/
theorem Custody.Aimed.exists_target
    (aimed : custody.Aimed source side) {request : Frame} {index : Nat}
    {call : Call} (asks : source.Asks side request index call) :
    ∃ object, custody.targets[index]? = some object ∧
      (request.method ≠ deleteRequest →
        (request.serviceObjectId, object) ∈ custody.held) := by
  obtain ⟨valid, _⟩ := List.getElem?_eq_some_iff.mp asks.found
  have inRange : index < custody.targets.length := by
    rw [aimed.length]
    exact valid
  have here := List.getElem?_eq_getElem inRange
  refine ⟨_, here, ?_⟩
  intro method
  have methods : call.request.method = request.method :=
    congrArg Content.method asks.content
  have ids : call.request.serviceObjectId = request.serviceObjectId :=
    congrArg Content.serviceObjectId asks.content
  have active : call.ended = false := by
    unfold Call.ended
    rw [asks.state]
  rw [← ids]
  exact
    aimed.targets index call _ asks.found here (methods ▸ method) active

/-- A step of the connection that starts no call of the side. -/
theorem Custody.Aimed.stepsTo
    (aimed : custody.Aimed source side)
    (taken : source.StepsTo config event target packets)
    (goesOn : event.side = side →
      ∀ request, event.event ≠ .client (.invoke request)) :
    (custody.after source side event).Aimed target side := by
  have calls := taken.callsContinue side goesOn
  constructor
  · rw [Custody.after_targets, calls.length]
    exact aimed.length
  · intro index call object found here method active
    obtain ⟨earlier, before, continues⟩ := calls.continues index call found
    have wasActive : earlier.ended = false := by
      by_contra ended
      rw [continues.ended (eq_true_of_ne_false ended)] at active
      cases active
    rw [Custody.after_targets] at here
    rw [continues.request] at method ⊢
    rw [Custody.after_held]
    exact aimed.targets index earlier object before here method wasActive

/-- Proxies that calls are made on stay. -/
theorem Custody.Aimed.keeps
    (aimed : custody.Aimed source side) {next : Custody Object}
    (targets : next.targets = custody.targets)
    (keeps : ∀ call ∈ (source.ends side).client.calls, ∀ object,
      call.request.method ≠ deleteRequest → call.ended = false →
        (call.request.serviceObjectId, object) ∈ custody.held →
          (call.request.serviceObjectId, object) ∈ next.held) :
    next.Aimed source side where
  length := by
    rw [targets]
    exact aimed.length
  targets index call object found here method active := by
    rw [targets] at here
    exact
      keeps call (List.mem_of_getElem? found) object method active
        (aimed.targets index call object found here method active)

theorem Custody.Aimed.invokes
    (aimed : custody.Aimed source side) {request : Frame} {object : Object}
    (invokes : source.Invokes side request target)
    (own : request.method ≠ deleteRequest →
      (request.serviceObjectId, object) ∈ custody.held) :
    ({ custody with targets := custody.targets ++ [object] } :
      Custody Object).Aimed target side := by
  constructor
  · rw [invokes.calls, List.length_append, List.length_append,
      aimed.length]
    rfl
  · intro index call proxy found here method active
    rw [invokes.calls] at found
    by_cases old : index < (source.ends side).client.calls.length
    · rw [List.getElem?_append_left old] at found
      rw [List.getElem?_append_left (aimed.length ▸ old)] at here
      exact aimed.targets index call proxy found here method active
    · have new := Nat.not_lt.mp old
      rw [List.getElem?_append_right new] at found
      rw [List.getElem?_append_right (aimed.length ▸ new)] at here
      obtain rfl := List.mem_singleton.mp (List.mem_of_getElem? found)
      obtain rfl := List.mem_singleton.mp (List.mem_of_getElem? here)
      exact own method

/-- The proxy that is dropped is one that no call is made on. -/
theorem Custody.Aimed.drop
    {state : ProxyState Object}
    (aimed : custody.Aimed state.connection side) {index : Nat}
    {id : ServiceObjectId} {object : Object}
    (found : custody.held[index]? = some (id, object))
    (unused : state.unused side id = true) {next : Custody Object}
    (targets : next.targets = custody.targets)
    (held : next.held = custody.held.eraseIdx index) :
    next.Aimed state.connection side := by
  refine aimed.keeps targets ?_
  intro call member proxy method active among
  rw [held]
  have parted := (cons_eraseIdx_perm found).mem_iff.mpr among
  rcases List.mem_cons.mp parted with dropped | stays
  · have checked := List.all_eq_true.mp unused call member
    have ids : call.request.serviceObjectId = id :=
      congrArg Prod.fst dropped
    simp [ids, method, active] at checked
  · exact stays

/-- The calls of both sides are made on proxies that they hold. -/
def ProxyState.Aimed (state : ProxyState Object) : Prop :=
  ∀ side, (state.custody side).Aimed state.connection side

theorem ProxyState.Aimed.setCustody {state : ProxyState Object}
    (aimed : state.Aimed) {side : Side} {custody : Custody Object}
    (own : (state.custody side).Aimed state.connection side →
      custody.Aimed state.connection side) :
    (state.setCustody side custody).Aimed := by
  intro other
  by_cases same : other = side
  · subst same
    simp only [ProxyState.setCustody, Function.update_self]
    exact own (aimed other)
  · simp only [ProxyState.setCustody, Function.update_of_ne same]
    exact aimed other

private theorem aimed_of_call
    {state : ProxyState Object} {connection : Connection Object}
    {side : Side} {request : Frame} {custody : Custody Object}
    (aimed : state.Aimed)
    (stepped :
      state.connection.step config ⟨side, .client (.invoke request)⟩ =
        some connection)
    (own :
      (state.custody side).Aimed state.connection side →
        state.connection.Invokes side request connection →
          custody.Aimed connection side) :
    (ProxyState.mk connection
      (Function.update state.custody side custody)).Aimed := by
  obtain ⟨packets, taken⟩ := Connection.stepsTo_of_step stepped
  intro other
  by_cases same : other = side
  · subst same
    simp only [Function.update_self]
    exact own (aimed other) taken.invokes
  · simp only [Function.update_of_ne same]
    have moved :=
      (aimed other).stepsTo taken (fun mover => absurd mover.symm same)
    rwa [Custody.after_of_client] at moved

theorem ProxyState.aimed_of_reachable {state : ProxyState Object}
    (reachable : (proxySystem Object config).Reachable state) :
    state.Aimed := by
  refine reachable.invariant ?_ ?_
  · rintro source ⟨metaService, serviceObject, begins⟩ side
    rw [(begins side).2]
    constructor
    · rw [(begins side).1]
      rfl
    · intro index call target found
      rw [(begins side).1] at found
      cases found
  · intro source event target aimed stepped
    cases ProxyState.moves_of_step stepped with
    | take event connection other taken =>
        obtain ⟨packets, taken⟩ := Connection.stepsTo_of_step taken
        intro side
        refine (aimed side).stepsTo taken ?_
        intro _ request same
        rw [same] at other
        cases other
    | importProxy side index entry found =>
        exact
          aimed.setCustody fun own =>
            own.keeps rfl fun _ _ _ _ _ held =>
              List.mem_append_left _ held
    | callMethod side index method args id object connection found notNull
        taken =>
        exact
          aimed_of_call aimed taken fun own invokes =>
            own.invokes invokes fun _ => List.mem_of_getElem? found
    | dropProxy side index id object connection found unused collects
        taken =>
        refine aimed_of_call aimed taken ?_
        intro own invokes
        have dropped :
            ({ source.custody side with
                held := (source.custody side).held.eraseIdx index
                dropped :=
                  (source.custody side).dropped ++ [(id, object)] } :
              Custody Object).Aimed source.connection side :=
          own.drop found unused rfl rfl
        exact dropped.invokes invokes fun method => absurd rfl method
    | forgetProxy side index id object found unused silent =>
        exact aimed.setCustody fun own => own.drop found unused rfl rfl
    | dropHandle side | copyHandle side | importNull side | dropNull side
    | setNoDrop side =>
        exact
          aimed.setCustody fun own => own.keeps rfl fun _ _ _ _ _ held => held

end Aiming

/-! ## Responses and the calls that they are for -/

/-- The response that a call has got. -/
def CallState.response : CallState → Option Frame
  | .returning _ response | .returned response => some response
  | .popping | .sending _ | .awaiting _ | .timedOut | .abandoned _ => none

namespace Exchange

variable {exchange target : Exchange} {slots : Multiset SlotId}
variable {fits : Nat → Content → Bytes → Prop}

/-- Every response fits the call that waits for it or has got it. -/
structure Fitting (exchange : Exchange)
    (fits : Nat → Content → Bytes → Prop) : Prop where
  arriving :
    ∀ packet ∈ exchange.trail, packet.slot.getType = .response →
      ∀ (index : Nat) call, exchange.calls[index]? = some call →
        call.state.awaited = some packet.callSlot →
          fits index call.request.content packet.data
  arrived :
    ∀ (index : Nat) call response, exchange.calls[index]? = some call →
      call.state.response = some response →
        fits index call.request.content response.data

/-- A call that waits has been waiting, or has just sent its request. -/
theorem Moves.awaiting {event : ExchangeEvent}
    (moves : exchange.Moves event target) {index : Nat} {call : Call}
    {slot : SlotId} (found : target.calls[index]? = some call)
    (waits : call.state.awaited = some slot) :
    exchange.calls[index]? = some call ∨
      exchange.calls[index]? = some ⟨call.request, .sending slot⟩ := by
  cases moves with
  | invoke request =>
      by_cases old : index < exchange.calls.length
      · rw [List.getElem?_append_left old] at found
        exact Or.inl found
      · rw [List.getElem?_append_right (Nat.not_lt.mp old)] at found
        rw [List.mem_singleton.mp (List.mem_of_getElem? found)] at waits
        cases waits
  | send sent request packet taken before written =>
      by_cases same : sent = index
      · subst same
        rw [eq_of_getElem?_set_self found] at waits ⊢
        cases waits
        exact Or.inr before
      · rw [setCall, List.getElem?_set_ne same] at found
        exact Or.inl found
  | pop other | timeOut other | abandonSent other | abandon other
  | disconnect other | takeResponse other | release other =>
      by_cases same : other = index
      · subst same
        rw [eq_of_getElem?_set_self found] at waits
        cases waits
      · rw [setCall, List.getElem?_set_ne same] at found
        exact Or.inl found
  | execute | lose =>
      exact Or.inl found

/-- One call changes, and no response is new to the others. -/
theorem Fitting.set
    (fitting : exchange.Fitting fits) {index : Nat} {next : Call}
    (calls : target.calls = exchange.calls.set index next)
    (trail : ∀ packet ∈ target.trail, packet.slot.getType = .response →
      packet ∈ exchange.trail)
    (idle : ∀ packet ∈ target.trail, packet.slot.getType = .response →
      next.state.awaited ≠ some packet.callSlot)
    (own : ∀ response, next.state.response = some response →
      fits index next.request.content response.data) :
    target.Fitting fits where
  arriving := by
    intro packet member type other call found waits
    rw [calls] at found
    by_cases same : index = other
    · subst same
      rw [eq_of_getElem?_set_self found] at waits
      exact absurd waits (idle packet member type)
    · rw [List.getElem?_set_ne same] at found
      exact
        fitting.arriving packet (trail packet member type) type other call
          found waits
  arrived := by
    intro other call response found got
    rw [calls] at found
    by_cases same : index = other
    · subst same
      rw [eq_of_getElem?_set_self found] at got ⊢
      exact own response got
    · rw [List.getElem?_set_ne same] at found
      exact fitting.arrived other call response found got

/-- A call that neither waits nor has a response changes. -/
private theorem Fitting.set_of_silent
    (fitting : exchange.Fitting fits) {index : Nat} {next : Call}
    (calls : target.calls = exchange.calls.set index next)
    (trail : ∀ packet ∈ target.trail, packet.slot.getType = .response →
      packet ∈ exchange.trail)
    (awaited : next.state.awaited = none)
    (response : next.state.response = none) : target.Fitting fits := by
  refine fitting.set calls trail ?_ ?_
  · intro _ _ _
    rw [awaited]
    simp
  · intro _ got
    rw [response] at got
    cases got

/-- A request adds no response to the trail. -/
private theorem mem_of_request {packet other : Frame}
    {trail : Multiset Frame} (type : packet.slot.getType = .request)
    (member : other ∈ packet ::ₘ trail)
    (response : other.slot.getType = .response) : other ∈ trail := by
  rcases Multiset.mem_cons.mp member with rfl | earlier
  · rw [type] at response
    cases response
  · exact earlier

theorem Fitting.moves
    (fitting : exchange.Fitting fits) (ok : exchange.Ok slots)
    (nodup : slots.Nodup) {event : ExchangeEvent}
    (moves : exchange.Moves event target)
    (executes : ∀ packet result, event = .execute packet result →
      ∀ (index : Nat) call, exchange.calls[index]? = some call →
        call.state.awaited = some packet.callSlot →
          fits index call.request.content result) :
    target.Fitting fits := by
  cases moves with
  | invoke request =>
      constructor
      · intro packet member type index call found waits
        by_cases old : index < exchange.calls.length
        · rw [List.getElem?_append_left old] at found
          exact fitting.arriving packet member type index call found waits
        · rw [List.getElem?_append_right (Nat.not_lt.mp old)] at found
          rw [List.mem_singleton.mp (List.mem_of_getElem? found)] at waits
          cases waits
      · intro index call response found got
        by_cases old : index < exchange.calls.length
        · rw [List.getElem?_append_left old] at found
          exact fitting.arrived index call response found got
        · rw [List.getElem?_append_right (Nat.not_lt.mp old)] at found
          rw [List.mem_singleton.mp (List.mem_of_getElem? found)] at got
          cases got
  | pop index request slot rest found isFree =>
      exact fitting.set_of_silent rfl (fun _ member _ => member) rfl rfl
  | timeOut index request found =>
      exact fitting.set_of_silent rfl (fun _ member _ => member) rfl rfl
  | send index request packet slot found written =>
      have sent := Frame.sentUnder_of_addressed written
      have earlier (other : Frame) (member : other ∈ packet ::ₘ exchange.trail)
          (type : other.slot.getType = .response) :
          other ∈ exchange.trail :=
        mem_of_request sent.type member type
      refine fitting.set rfl earlier ?_ (by simp [CallState.response])
      intro other member type same
      injection same with same
      exact
        ok.no_packet_of_not_expected nodup found rfl rfl other
          (earlier other member type) same.symm
  | abandonSent index request packet slot found written =>
      have sent := Frame.sentUnder_of_addressed written
      exact
        fitting.set_of_silent rfl
          (fun _ member type => mem_of_request sent.type member type) rfl rfl
  | abandon index request slot found =>
      exact fitting.set_of_silent rfl (fun _ member _ => member) rfl rfl
  | disconnect index request slot found =>
      exact fitting.set_of_silent rfl (fun _ member _ => member) rfl rfl
  | execute packet response result others onTrail answered =>
      have answers := Frame.answers_of_answered answered
      refine ⟨?_, fitting.arrived⟩
      intro other member type index call found waits
      rcases Multiset.mem_cons.mp member with rfl | earlier
      · rw [answers.data]
        rw [answers.callSlot] at waits
        exact executes packet result rfl index call found waits
      · have before : other ∈ exchange.trail := by
          rw [onTrail]
          exact Multiset.mem_cons_of_mem earlier
        exact fitting.arriving other before type index call found waits
  | lose packet others onTrail =>
      refine ⟨?_, fitting.arrived⟩
      intro other member
      have before : other ∈ exchange.trail := by
        rw [onTrail]
        exact Multiset.mem_cons_of_mem member
      exact fitting.arriving other before
  | takeResponse index request response others found type onTrail =>
      have here : response ∈ exchange.trail := by
        rw [onTrail]
        exact Multiset.mem_cons_self response others
      refine fitting.set rfl ?_ (by simp [CallState.awaited]) ?_
      · intro other member _
        rw [onTrail]
        exact Multiset.mem_cons_of_mem member
      · intro other got
        cases got
        have waits :
            (CallState.awaiting response.slot).awaited =
              some response.callSlot := by
          rw [Frame.callSlot_of_response type]
          rfl
        have fits := fitting.arriving response here type index _ found waits
        exact fits
  | release index request response slot found =>
      refine
        fitting.set rfl (fun _ member _ => member)
          (by simp [CallState.awaited]) ?_
      intro other got
      cases got
      have fits := fitting.arrived index _ response found rfl
      exact fits

theorem Fitting.mono {weaker : Nat → Content → Bytes → Prop}
    (fitting : exchange.Fitting fits)
    (weakens : ∀ index content result, fits index content result →
      weaker index content result) : exchange.Fitting weaker where
  arriving packet member type index call found waits :=
    weakens _ _ _ (fitting.arriving packet member type index call found waits)
  arrived index call response found got :=
    weakens _ _ _ (fitting.arrived index call response found got)

end Exchange

/-! ## Tasks and the calls that they are for -/

section Tasks

variable {Object : Type u} {config : Side → Config}
variable {source target : Connection Object}
variable {event : ConnectionEvent Object} {packets : List Frame}

/-- It is inside `ServiceForwarder::delete`. -/
def Task.InDelete (task : Task Object) : Prop :=
  task.state = .destroying ∨ task.state = .deleting

/-- Only delete requests are handled by `delete`. -/
def Server.DeletesAsked (server : Server Object) : Prop :=
  ∀ task ∈ server.tasks, task.InDelete → task.request.method = deleteRequest

theorem Server.DeletesAsked.moves
    {config : Config} {server : Server Object}
    (asked : server.DeletesAsked) {event : ServerEvent Object}
    {result : Server Object × List Frame}
    (moves : server.Moves config event result) :
    result.1.DeletesAsked := by
  intro task member deletes
  cases moves with
  | startDelete index request registry found free delete removed =>
      rcases List.mem_or_eq_of_mem_set member with earlier | rfl
      · exact asked task earlier deletes
      · exact delete
  | destroyed index request found =>
      rcases List.mem_or_eq_of_mem_set member with earlier | rfl
      · exact asked task earlier deletes
      · exact
          asked ⟨request, .destroying⟩ (List.mem_of_getElem? found)
            (Or.inl rfl)
  | startCall | startPanics | finishDelete | finish | crash | crashDelete
  | respond | respondPanics | account =>
      rcases List.mem_or_eq_of_mem_set member with earlier | rfl
      · exact asked task earlier deletes
      · rcases deletes with destroying | deleting
        · cases destroying
        · cases deleting
  | drained | popFront | insert | clear =>
      exact asked task member deletes

theorem Connection.StepsTo.deletesAsked
    (taken : source.StepsTo config event target packets) {side : Side}
    (asked : (source.ends side).server.DeletesAsked) :
    (target.ends side).server.DeletesAsked := by
  obtain ⟨mover, inner⟩ := event
  rcases side.eq_or_eq_other mover with rfl | rfl
  · have moves := taken.moves
    simp only at moves
    generalize target.ends side = reached at moves
    cases moves with
    | server event result moves =>
        exact asked.moves moves
    | serverPacket packet receiving waiting =>
        intro task member deletes
        rcases List.mem_append.mp member with earlier | new
        · exact asked task earlier deletes
        · rw [List.mem_singleton.mp new] at deletes
          rcases deletes with destroying | deleting
          · cases destroying
          · cases deleting
    | client | multiplexer | clientPacket | clientFailure | clientPanics
    | serverFailure | serverPanics =>
        exact asked
  · rw [taken.deposited]
    exact asked

/-- A task that has its result has just been running. -/
theorem Connection.StepsTo.finish
    {side : Side} {index : Nat} {request : Frame} {result : Bytes}
    (taken :
      source.StepsTo config ⟨side, .server (.finish index result)⟩ target
        packets)
    (responds :
      (target.ends side).server.tasks[index]? =
        some ⟨request, .responding result⟩) :
    ∃ object,
      (source.ends side).server.tasks[index]? =
        some ⟨request, .running object⟩ := by
  have moves := taken.moves
  simp only at moves
  generalize target.ends side = reached at moves responds
  cases moves with
  | server _ inner moves =>
      cases moves with
      | finish _ asked object _ found =>
          cases eq_of_getElem?_set_self responds
          exact ⟨object, found⟩

theorem Connection.StepsTo.finishDelete
    {side : Side} {index : Nat} {request : Frame} {result : Bytes}
    (taken :
      source.StepsTo config ⟨side, .server (.finishDelete index)⟩ target
        packets)
    (responds :
      (target.ends side).server.tasks[index]? =
        some ⟨request, .responding result⟩) :
    (source.ends side).server.tasks[index]? = some ⟨request, .deleting⟩ ∧
      result = [] := by
  have moves := taken.moves
  simp only at moves
  generalize target.ends side = reached at moves responds
  cases moves with
  | server _ inner moves =>
      cases moves with
      | finishDelete _ asked registry found =>
          cases eq_of_getElem?_set_self responds
          exact ⟨found, rfl⟩

end Tasks

/-! ## Answers -/

section Answers

variable {Object : Type u} {config : Side → Config}
variable (dispatches : Object → MethodId → Bytes → Bytes → Prop)

/-- The result of a method is one that the object behind the proxy of the
call can give, and that of a delete request is empty. -/
def AnswersFrom (targets : List Object) (index : Nat) (content : Content)
    (result : Bytes) : Prop :=
  if content.method = deleteRequest then
    result = []
  else
    ∃ object, targets[index]? = some object ∧
      dispatches object content.method content.args result

/-- The methods that run for the calls of one side, and their results, are
those of the objects that the calls were made on. -/
structure Connection.Answers (connection : Connection Object) (side : Side)
    (targets : List Object) : Prop where
  running :
    ∀ task ∈ (connection.ends side.other).server.tasks, ∀ object,
      task.state = .running object →
        task.request.method ≠ deleteRequest ∧
          ∀ (index : Nat) call,
            (connection.ends side).client.calls[index]? = some call →
              call.state.awaited = some task.request.callSlot →
                targets[index]? = some object
  deleting : (connection.ends side.other).server.DeletesAsked
  fitting :
    (connection.exchange side).Fitting (AnswersFrom dispatches targets)

/-- Every method of an object of one side returns what the object can make
of its arguments. -/
def Connection.Faithful (connection : Connection Object) (side : Side)
    (event : ConnectionEvent Object) : Prop :=
  ∀ index result request object,
    event = ⟨side, .server (.finish index result)⟩ →
      (connection.ends side).server.tasks[index]? =
          some ⟨request, .running object⟩ →
        dispatches object request.method request.data result

variable {dispatches}
variable {custody : Custody Object} {source target : Connection Object}
variable {side : Side} {event : ConnectionEvent Object}
variable {packets : List Frame}

/-- Who waits for the answer to a request has been waiting for it. -/
private theorem found_of_awaiting
    (reachable : (connectionSystem Object config).Reachable source)
    (taken : source.StepsTo config event target packets)
    {request : Frame} (onTrail : request ∈ (source.exchange side).trail)
    {index : Nat} {call : Call}
    (found : (target.ends side).client.calls[index]? = some call)
    (waits : call.state.awaited = some request.callSlot) :
    (source.ends side).client.calls[index]? = some call := by
  have ok :=
    Exchange.ok_of_reachable
      (Connection.reachable_exchange reachable side)
  have sorted := Connection.sorted_of_reachable reachable
  rcases taken.advances sorted side ok with same | ⟨deed, _, moves⟩
  · have calls :
        (target.ends side).client.calls = (source.ends side).client.calls :=
      congrArg Exchange.calls same
    rw [← calls]
    exact found
  · rcases moves.awaiting found waits with before | sending
    · exact before
    · have nothing :=
        ok.no_packet_of_not_expected (config side).nodup_slots sending rfl
          rfl
      exact absurd rfl (nothing request onTrail)

theorem Connection.Answers.running_stepsTo
    (answers : source.Answers dispatches side custody.targets)
    (aimed : custody.Aimed source side) (valid : custody.Valid source side)
    (reachable : (connectionSystem Object config).Reachable source)
    (taken : source.StepsTo config event target packets) :
    ∀ task ∈ (target.ends side.other).server.tasks, ∀ object,
      task.state = .running object →
        task.request.method ≠ deleteRequest ∧
          ∀ (index : Nat) call,
            (target.ends side).client.calls[index]? = some call →
              call.state.awaited = some task.request.callSlot →
                custody.targets[index]? = some object := by
  intro task member object runs
  rcases taken.running side member runs with
    earlier | ⟨registered, starts, method⟩
  · obtain ⟨method, aimsAt⟩ := answers.running task earlier object runs
    refine ⟨method, ?_⟩
    intro index call found waits
    have holds : task.packet = some task.request := by
      unfold Task.packet
      rw [runs]
    obtain ⟨onTrail, _⟩ :=
      Connection.mem_trail_of_task reachable earlier holds
    exact
      aimsAt index call
        (found_of_awaiting reachable taken onTrail found waits) waits
  · refine ⟨method, ?_⟩
    intro index call found waits
    obtain ⟨_, place, _, queued⟩ := starts
    obtain ⟨onTrail, type⟩ :=
      Connection.mem_trail_of_task reachable (List.mem_of_getElem? queued)
        rfl
    have before := found_of_awaiting reachable taken onTrail found waits
    have asks :=
      Connection.asks_of_awaiting reachable type onTrail before waits
    obtain ⟨proxy, here, held⟩ := aimed.exists_target asks
    -- the proxy is held, so its object is the one that is registered
    have among :
        (task.request.serviceObjectId, proxy) ∈ custody.entries :=
      List.mem_append_right _ (List.mem_append_left _ (held method))
    cases (valid.registered _ among).symm.trans registered
    exact here

/-- What a task executes for a call fits the call. -/
private theorem answersFrom_of_execute
    (answers : source.Answers dispatches side custody.targets)
    (reachable : (connectionSystem Object config).Reachable source)
    (faithful : source.Faithful dispatches side.other event)
    (taken : source.StepsTo config event target packets)
    {packet : Frame} {result : Bytes}
    (excused :
      End.Excuses (event.side = side) event.event (target.ends event.side)
        (.execute packet result)) {index : Nat} {call : Call}
    (found : (source.ends side).client.calls[index]? = some call)
    (waits : call.state.awaited = some packet.callSlot) :
    AnswersFrom dispatches custody.targets index call.request.content
      result := by
  obtain ⟨mover, inner⟩ := event
  obtain ⟨notOwn, place, responds, finishes⟩ := excused
  rcases mover.eq_or_eq_other side with own | rfl
  · exact absurd own notOwn
  rcases finishes with rfl | rfl
  · obtain ⟨object, runs⟩ := taken.finish responds
    have member := List.mem_of_getElem? runs
    obtain ⟨onTrail, type⟩ :=
      Connection.mem_trail_of_task reachable member rfl
    have asks :=
      Connection.asks_of_awaiting reachable type onTrail found waits
    obtain ⟨method, aimsAt⟩ := answers.running _ member object rfl
    have here := aimsAt index call found waits
    have dispatched := faithful place result packet object rfl runs
    have other : packet.content.method ≠ deleteRequest := method
    rw [asks.content, AnswersFrom, if_neg other]
    exact ⟨object, here, dispatched⟩
  · obtain ⟨deletes, empty⟩ := taken.finishDelete responds
    have member := List.mem_of_getElem? deletes
    obtain ⟨onTrail, type⟩ :=
      Connection.mem_trail_of_task reachable member rfl
    have asks :=
      Connection.asks_of_awaiting reachable type onTrail found waits
    have method : packet.content.method = deleteRequest :=
      answers.deleting _ member (Or.inr rfl)
    rw [asks.content, AnswersFrom, if_pos method]
    exact empty

theorem Connection.Answers.stepsTo
    (answers : source.Answers dispatches side custody.targets)
    (aimed : custody.Aimed source side) (valid : custody.Valid source side)
    (reachable : (connectionSystem Object config).Reachable source)
    (faithful : source.Faithful dispatches side.other event)
    (taken : source.StepsTo config event target packets) :
    target.Answers dispatches side custody.targets where
  running := answers.running_stepsTo aimed valid reachable taken
  deleting := taken.deletesAsked answers.deleting
  fitting := by
    have ok :=
      Exchange.ok_of_reachable
        (Connection.reachable_exchange reachable side)
    have sorted := Connection.sorted_of_reachable reachable
    rcases taken.advances sorted side ok with same | ⟨deed, excused, moves⟩
    · rw [same]
      exact answers.fitting
    · refine answers.fitting.moves ok (config side).nodup_slots moves ?_
      rintro packet result rfl index call found waits
      exact
        answersFrom_of_execute answers reachable faithful taken excused
          found waits

/-- More calls do not change what the earlier ones were made on. -/
theorem Connection.Answers.mono {targets later : List Object}
    (answers : source.Answers dispatches side targets)
    (earlier : ∀ (index : Nat) object, targets[index]? = some object →
      later[index]? = some object) :
    source.Answers dispatches side later where
  running := by
    intro task member object runs
    obtain ⟨method, aimsAt⟩ := answers.running task member object runs
    exact
      ⟨method, fun index call found waits =>
        earlier index object (aimsAt index call found waits)⟩
  deleting := answers.deleting
  fitting := by
    refine answers.fitting.mono ?_
    intro index content result answersFrom
    unfold AnswersFrom at answersFrom ⊢
    by_cases method : content.method = deleteRequest
    · rw [if_pos method] at answersFrom ⊢
      exact answersFrom
    · rw [if_neg method] at answersFrom ⊢
      obtain ⟨object, here, dispatched⟩ := answersFrom
      exact ⟨object, earlier index object here, dispatched⟩

/-! ### Every run -/

/-- What a step does to the connection. -/
theorem ProxyState.Moves.connection_cases
    {state target : ProxyState Object} {event : ProxyEvent Object}
    (moves : state.Moves config event target) :
    target.connection = state.connection ∨
      ∃ deed packets,
        state.connection.StepsTo config deed target.connection packets ∧
          (event = .take deed ∨
            ∃ side request, deed = ⟨side, .client (.invoke request)⟩) := by
  cases moves with
  | take event connection other stepped =>
      obtain ⟨packets, taken⟩ := Connection.stepsTo_of_step stepped
      exact Or.inr ⟨event, packets, taken, Or.inl rfl⟩
  | callMethod side _ _ _ _ _ _ _ _ stepped
  | dropProxy side _ _ _ _ _ _ _ stepped =>
      obtain ⟨packets, taken⟩ := Connection.stepsTo_of_step stepped
      exact Or.inr ⟨_, packets, taken, Or.inr ⟨side, _, rfl⟩⟩
  | importProxy | dropHandle | copyHandle | importNull | dropNull
  | forgetProxy | setNoDrop =>
      exact Or.inl rfl

private theorem targets_update
    {custodies : Side → Custody Object} {side other : Side}
    {next : Custody Object}
    (earlier : ∀ (index : Nat) object,
      (custodies side).targets[index]? = some object →
        next.targets[index]? = some object) :
    ∀ (index : Nat) object,
      (custodies other).targets[index]? = some object →
        (Function.update custodies side next other).targets[index]? =
          some object := by
  by_cases same : other = side
  · subst same
    rw [Function.update_self]
    exact earlier
  · rw [Function.update_of_ne same]
    exact fun _ _ found => found

theorem ProxyState.Moves.targets
    {state target : ProxyState Object} {event : ProxyEvent Object}
    (moves : state.Moves config event target) (side : Side) :
    ∀ (index : Nat) object,
      (state.custody side).targets[index]? = some object →
        (target.custody side).targets[index]? = some object := by
  cases moves with
  | take event connection other stepped =>
      intro index object found
      rw [Custody.after_targets]
      exact found
  | callMethod | dropProxy =>
      exact
        targets_update fun index object found =>
          List.getElem?_append_left
            (List.getElem?_eq_some_iff.mp found).1 |>.trans found
  | importProxy | dropHandle | copyHandle | importNull | dropNull
  | forgetProxy | setNoDrop =>
      exact targets_update fun _ _ found => found

/-- Nobody clears a registry or copies a handle, no method has the number of a
delete request, and methods return what their objects can make of their
arguments. -/
def Faithful (dispatches : Object → MethodId → Bytes → Bytes → Prop)
    (state : ProxyState Object) (event : ProxyEvent Object) : Prop :=
  Kept state event ∧
    ∀ side deed, event = .take deed →
      state.connection.Faithful dispatches side deed

/-- Every call of either side gets its answer from the object that it was
made on. -/
def ProxyState.Answers
    (dispatches : Object → MethodId → Bytes → Bytes → Prop)
    (state : ProxyState Object) : Prop :=
  ∀ side, state.connection.Answers dispatches side (state.custody side).targets

theorem Faithful.mono
    {weaker : Object → MethodId → Bytes → Bytes → Prop}
    {state : ProxyState Object} {event : ProxyEvent Object}
    (faithful : Faithful dispatches state event)
    (weakens : ∀ object method args result,
      dispatches object method args result →
        weaker object method args result) :
    Faithful weaker state event := by
  refine ⟨faithful.1, ?_⟩
  intro side deed same index result request object finishes runs
  exact
    weakens object request.method request.data result
      (faithful.2 side deed same index result request object finishes runs)

theorem ProxyState.answers_of_reached {state : ProxyState Object}
    (reached :
      (proxySystem Object config).ReachableWhere (Faithful dispatches)
        state) : state.Answers dispatches := by
  refine reached.invariant_of_reached ?_ ?_
  · rintro source ⟨metaService, serviceObject, begins⟩ side
    have own := (begins side).1
    have others := (begins side.other).1
    have calls : (source.connection.exchange side).calls = [] := by
      unfold Connection.exchange Rpc.exchange
      rw [own]
      rfl
    refine ⟨?_, ?_, ?_, ?_⟩
    · intro task member
      rw [others] at member
      cases member
    · intro task member
      rw [others] at member
      cases member
    · intro packet member type index call found
      cases calls ▸ found
    · intro index call response found
      cases calls ▸ found
  · intro source event target before answers faithful stepped side
    have moves := ProxyState.moves_of_step stepped
    have reachable := ProxyState.reachable_connection before.reachable
    refine Connection.Answers.mono ?_ (moves.targets side)
    rcases moves.connection_cases with
      same | ⟨deed, packets, taken, origin⟩
    · rw [same]
      exact answers side
    · refine
        (answers side).stepsTo
          (ProxyState.aimed_of_reachable before.reachable side)
          (ProxyState.valid_of_reached
            (before.mono fun _ _ faithful => faithful.1) side)
          reachable ?_ taken
      rcases origin with rfl | ⟨caller, request, rfl⟩
      · exact faithful.2 side.other deed rfl
      · intro index result other object same
        cases same

theorem ProxyState.answersFrom_of_reached {state : ProxyState Object}
    (reached :
      (proxySystem Object config).ReachableWhere (Faithful dispatches) state)
    {side : Side} {index : Nat} {call : Call} {response : Frame}
    (found :
      (state.connection.ends side).client.calls[index]? = some call)
    (returned : call.state = .returned response) :
    AnswersFrom dispatches (state.custody side).targets index
      call.request.content response.data := by
  have answers := ProxyState.answers_of_reached reached side
  have got : call.state.response = some response := by
    rw [returned]
    rfl
  exact answers.fitting.arrived index call response found got

/-- Whatever gets lost and whichever thread panics: what a call returns, the
object behind its proxy has made of its method and its arguments, and a
delete request returns nothing. -/
theorem calls_return_what_their_objects_give {state : ProxyState Object}
    (reached :
      (proxySystem Object config).ReachableWhere (Faithful dispatches) state)
    {side : Side} {index : Nat} {call : Call} {response : Frame}
    (found :
      (state.connection.ends side).client.calls[index]? = some call)
    (returned : call.state = .returned response) :
    if call.request.method = deleteRequest then
      response.data = []
    else
      ∃ object, (state.custody side).targets[index]? = some object ∧
        dispatches object call.request.method call.request.data
          response.data :=
  ProxyState.answersFrom_of_reached reached found returned

end Answers

/-! ## A call through a proxy that returns -/

/-- The side conditions of `Faithful`, for results that can be checked. -/
def isFaithful (dispatches : Nat → MethodId → Bytes → Bytes → Bool)
    (state : ProxyState Nat) : ProxyEvent Nat → Bool
  | .take ⟨side, .server (.finish index result)⟩ =>
      match (state.connection.ends side).server.tasks[index]? with
      | some ⟨request, .running object⟩ =>
          dispatches object request.method request.data result
      | _ => true
  | .take ⟨_, .server .clear⟩ | .copyHandle _ _ => false
  | .callMethod _ _ method _ => method != deleteRequest
  | _ => true

theorem faithful_of_isFaithful
    {dispatches : Nat → MethodId → Bytes → Bytes → Bool}
    (state : ProxyState Nat) (event : ProxyEvent Nat)
    (checked : isFaithful dispatches state event = true) :
    Faithful
      (fun object method args result =>
        dispatches object method args result = true) state event := by
  constructor
  · cases event with
    | take event =>
        obtain ⟨side, inner⟩ := event
        rintro rfl
        cases checked
    | callMethod side index method args =>
        exact bne_iff_ne.mp checked
    | copyHandle =>
        cases checked
    | importProxy | dropHandle | importNull | dropNull | dropProxy
    | setNoDrop =>
        trivial
  · rintro side deed rfl index result request object rfl runs
    simp only [isFaithful, runs] at checked
    exact checked

/-- The left end makes the initial service into a proxy and calls it; the
right end answers, and the call returns. -/
def returningCall (args result : Bytes) : List (ProxyEvent Nat) :=
  [.importProxy .left 0,
    .callMethod .left 1 70 args,
    .take ⟨.left, .client (.pop 0)⟩,
    .take ⟨.left, .client (.send 0 .sent)⟩,
    .take ⟨.right, .multiplexer (.deliver 0)⟩,
    .take ⟨.right, .multiplexer .forward⟩,
    .take ⟨.right, .serverReceive⟩,
    .take ⟨.right, .server (.start 0)⟩,
    .take ⟨.right, .server (.finish 0 result)⟩,
    .take ⟨.right, .server (.respond 0 .sent)⟩,
    .take ⟨.left, .multiplexer (.deliver 0)⟩,
    .take ⟨.left, .multiplexer .forward⟩,
    .take ⟨.left, .clientReceive⟩,
    .take ⟨.left, .client (.takeResponse 0)⟩,
    .take ⟨.left, .client (.release 0)⟩]

/-- A method that puts the number of its object before its arguments. -/
def numbers (object : Nat) (_method : MethodId) (args result : Bytes) :
    Bool :=
  result == UInt8.ofNat object :: args

theorem numberedCall_replays :
    ((proxySystem Nat fun _ => smallConfig).checkedRun (isFaithful numbers)
      freshProxies (returningCall [1] [11, 1])).isSome := by
  decide

def numberedCall : ProxyState Nat :=
  ((proxySystem Nat fun _ => smallConfig).checkedRun (isFaithful numbers)
    freshProxies (returningCall [1] [11, 1])).get numberedCall_replays

theorem calls_return_what_their_objects_give_numberedCall :
    ∃ object, (numberedCall.custody .left).targets[0]? = some object ∧
      numbers object 70 [1] [11, 1] = true :=
  @calls_return_what_their_objects_give Nat (fun _ => smallConfig)
    (fun object method args result =>
      numbers object method args result = true) numberedCall
    ⟨freshProxies, freshProxies_initial,
      TransitionSystem.runsWhere_of_checkedRun faithful_of_isFaithful
        (Option.some_get numberedCall_replays).symm⟩
    .left 0
    ⟨⟨.newRequest, initialServiceObjectId, 70, [1]⟩,
      .returned ⟨⟨0⟩, initialServiceObjectId, 70, [11, 1]⟩⟩
    ⟨⟨0⟩, initialServiceObjectId, 70, [11, 1]⟩ (by decide) rfl

end CloudP2P.Rpc
