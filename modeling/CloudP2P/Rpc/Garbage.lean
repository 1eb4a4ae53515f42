import CloudP2P.Rpc.Answers

/-!
# Requests find their objects, and garbage is collected

A proxy is dropped only when none of its calls is under way, so the request
of a call is handled while its object is registered, and a delete request is
handled after every other request to its object.  No request of a proxy ever
panics for want of its object, and no object is removed while a method of it
runs.

When nothing fails and the methods of one side call nobody, the calls of both
sides complete, and what is registered then is what the other side still has a
handle or a proxy for, or has dropped the handle of.
-/

universe u

namespace CloudP2P.Rpc

/-! ## Methods that run -/

/-- A method that runs belongs to the object that is registered. -/
def Connection.RunsRegistered {Object : Type u}
    (connection : Connection Object) (side : Side) : Prop :=
  ∀ task ∈ (connection.ends side.other).server.tasks, ∀ object,
    task.state = .running object →
      task.request.method ≠ deleteRequest ∧
        connection.objects side task.request.serviceObjectId = some object

section Running

variable {Object : Type u} {config : Side → Config}
variable {custody : Custody Object} {source target : Connection Object}
variable {side : Side} {event : ConnectionEvent Object}
variable {packets : List Frame}

theorem Connection.Starts.unique
    {left right : Frame} (first : source.Starts side event left)
    (second : source.Starts side event right) : left = right := by
  obtain ⟨_, index, started, foundLeft⟩ := first
  obtain ⟨_, other, alsoStarted, foundRight⟩ := second
  rw [started] at alsoStarted
  cases alsoStarted
  cases foundLeft.symm.trans foundRight
  rfl

/-- No step changes what is registered under the id of a method that runs. -/
private theorem objects_of_running
    (valid : custody.Valid source side) (aimed : custody.Aimed source side)
    (reachable : (connectionSystem Object config).Reachable source)
    (awaited : (source.exchange side).Awaited)
    (serves : source.Serves side event target) {task : Task Object}
    {object : Object}
    (registered :
      source.objects side task.request.serviceObjectId = some object)
    (method : task.request.method ≠ deleteRequest)
    (since : task ∈ (source.ends side.other).server.tasks ∧
        task.packet = some task.request ∨
      source.Starts side event task.request) :
    target.objects side task.request.serviceObjectId = some object := by
  cases serves with
  | calls _ _ _ _ _ _ objects | panics _ _ _ _ objects
  | rests _ _ _ objects =>
      rw [objects]
      exact registered
  | exports index id added inserts found drops objects =>
      have free :=
        Connection.fresh_of_reachable reachable side _
          (List.mem_of_getElem? found)
      have different : task.request.serviceObjectId ≠ id := by
        intro same
        rw [same] at registered
        rw [registered] at free
        cases free
      rw [objects, Function.update_of_ne different]
      exact registered
  | deletes request starts delete _ taken objects =>
      have different :
          task.request.serviceObjectId ≠ request.serviceObjectId := by
        rcases since with ⟨member, holds⟩ | started
        · obtain ⟨onTrail, type⟩ :=
            Connection.mem_trail_of_task reachable member holds
          obtain ⟨index, call, asks⟩ :=
            Connection.exists_asks reachable awaited type onTrail
          obtain ⟨proxy, _, held⟩ := aimed.exists_target asks
          have asked : request.content ∈ source.outstanding side := by
            rw [taken]
            exact Multiset.mem_cons_self _ _
          obtain ⟨entry, dropped, same⟩ :=
            valid.exists_dropped asked delete
          have different :=
            valid.ne_of_dropped dropped
              (List.mem_append_right _ (held method))
          exact fun equal => different (equal.trans same.symm)
        · rw [starts.unique started] at delete
          exact absurd delete method
      rw [objects, Function.update_of_ne different]
      exact registered

/-- A step of the connection that starts no call of the side. -/
theorem Connection.RunsRegistered.stepsTo
    (runsRegistered : source.RunsRegistered side)
    (aimed : custody.Aimed source side) (valid : custody.Valid source side)
    (reachable : (connectionSystem Object config).Reachable source)
    (awaited : (source.exchange side).Awaited)
    (taken : source.StepsTo config event target packets)
    (goesOn : event.side = side →
      ∀ request, event.event ≠ .client (.invoke request))
    (kept : event.event ≠ .server .clear) :
    target.RunsRegistered side := by
  have serves := taken.serves side goesOn kept
  intro task member object runs
  rcases taken.running side member runs with
    earlier | ⟨registered, starts, method⟩
  · obtain ⟨method, registered⟩ := runsRegistered task earlier object runs
    have holds : task.packet = some task.request := by
      unfold Task.packet
      rw [runs]
    exact
      ⟨method,
        objects_of_running valid aimed reachable awaited serves registered
          method (Or.inl ⟨earlier, holds⟩)⟩
  · exact
      ⟨method,
        objects_of_running valid aimed reachable awaited serves registered
          method (Or.inr starts)⟩

theorem Connection.RunsRegistered.invokes {request : Frame}
    (runsRegistered : source.RunsRegistered side)
    (invokes : source.Invokes side request target) :
    target.RunsRegistered side := by
  unfold Connection.RunsRegistered Connection.objects
  rw [invokes.server]
  exact runsRegistered

end Running

/-! ## Every run -/

/-- Nobody clears a registry or copies a handle, no method has the number of a
delete request, and no send reports a failure for a packet that got out. -/
def Undisturbed {Object : Type u} (state : ProxyState Object)
    (event : ProxyEvent Object) : Prop :=
  Kept state event ∧
    ∀ side call,
      event ≠ .take ⟨side, .client (.send call .failedAfterDelivery)⟩

section Runs

variable {Object : Type u} {config : Side → Config}
variable {state : ProxyState Object}

theorem ProxyState.honest_of_reached
    (reached : (proxySystem Object config).ReachableWhere Undisturbed state) :
    (connectionSystem Object config).ReachableWhere HonestSends
      state.connection := by
  refine ProxyState.connection_of_reached ?_ ?_ reached
  · rintro source ⟨side, inner⟩ undisturbed call same
    exact undisturbed.2 side call (by rw [← same])
  · intro connection side request call same
    cases same

theorem Connection.StepsTo.receiver
    {source target : Connection Object} {event : ConnectionEvent Object}
    {packets : List Frame}
    (taken : source.StepsTo config event target packets) {side : Side}
    (running : (target.ends side).client.receiver = .running) :
    (source.ends side).client.receiver = .running := by
  obtain ⟨mover, inner⟩ := event
  rcases mover.eq_or_eq_other side with rfl | rfl
  · exact taken.moves.running running
  · have deposited := taken.deposited
    simp only [Side.other_other] at deposited
    rw [deposited] at running
    exact running

private theorem runsRegistered_of_stepsTo
    {source : ProxyState Object} {target : Connection Object}
    {event : ConnectionEvent Object} {packets : List Frame}
    (before : (proxySystem Object config).ReachableWhere Undisturbed source)
    (taken : source.connection.StepsTo config event target packets)
    (kept : event.event ≠ .server .clear) {side : Side}
    (runsRegistered :
      (source.connection.ends side).client.receiver = .running →
        source.connection.RunsRegistered side)
    (running : (target.ends side).client.receiver = .running) :
    target.RunsRegistered side := by
  have honest := ProxyState.honest_of_reached before
  have earlier := taken.receiver running
  have registered := runsRegistered earlier
  by_cases invokes :
      ∃ request, event = ⟨side, .client (.invoke request)⟩
  · obtain ⟨request, rfl⟩ := invokes
    exact registered.invokes taken.invokes
  · refine
      registered.stepsTo (ProxyState.aimed_of_reachable before.reachable side)
        (ProxyState.valid_of_reached
          (before.mono fun _ _ undisturbed => undisturbed.1) side)
        honest.reachable
        ((Connection.steady_of_reachable honest side).awaited earlier) taken
        ?_ kept
    rintro rfl request same
    exact invokes ⟨request, by rw [← same]⟩

/-- As long as a side receives, no object is removed while a method of it
runs for that side. -/
def ProxyState.RunsRegistered (state : ProxyState Object) : Prop :=
  ∀ side, (state.connection.ends side).client.receiver = .running →
    state.connection.RunsRegistered side

theorem ProxyState.runsRegistered_of_reached
    (reached : (proxySystem Object config).ReachableWhere Undisturbed state) :
    state.RunsRegistered := by
  refine reached.invariant_of_reached ?_ ?_
  · rintro source ⟨metaService, serviceObject, begins⟩ side _ task member
    rw [(begins side.other).1] at member
    cases member
  · intro source event target before earlier undisturbed stepped side
    have kept := undisturbed.1
    cases ProxyState.moves_of_step stepped with
    | take event connection other taken =>
        obtain ⟨packets, taken⟩ := Connection.stepsTo_of_step taken
        exact runsRegistered_of_stepsTo before taken kept (earlier side)
    | callMethod _ _ _ _ _ _ _ _ _ taken
    | dropProxy _ _ _ _ _ _ _ _ taken =>
        obtain ⟨packets, taken⟩ := Connection.stepsTo_of_step taken
        exact
          runsRegistered_of_stepsTo before taken (by simp) (earlier side)
    | importProxy | dropHandle | copyHandle | importNull | dropNull
    | forgetProxy | setNoDrop =>
        exact earlier side

/-- The object that a request finds, and where the proxy is. -/
private theorem finds_of_queued
    (reached : (proxySystem Object config).ReachableWhere Undisturbed state)
    {side : Side}
    (running : (state.connection.ends side).client.receiver = .running)
    {task : Task Object}
    (member : task ∈ (state.connection.ends side.other).server.tasks)
    (queued : task.state = .queued) :
    ∃ object,
      state.connection.objects side task.request.serviceObjectId =
          some object ∧
        if task.request.method = deleteRequest then
          (task.request.serviceObjectId, object) ∈
              (state.custody side).dropped ∧
            ∀ entry ∈
              (state.custody side).offered ++ (state.custody side).held,
                entry.1 ≠ task.request.serviceObjectId
        else
          (task.request.serviceObjectId, object) ∈
              (state.custody side).held ∧
            ∃ index call,
              state.connection.Asks side task.request index call ∧
                (state.custody side).targets[index]? = some object := by
  have honest := ProxyState.honest_of_reached reached
  have aimed := ProxyState.aimed_of_reachable reached.reachable side
  have valid :=
    ProxyState.valid_of_reached
      (reached.mono fun _ _ undisturbed => undisturbed.1) side
  have awaited :=
    (Connection.steady_of_reachable honest side).awaited running
  by_cases delete : task.request.method = deleteRequest
  · have asked :
        task.request.content ∈ state.connection.outstanding side := by
      have waits : task.unstarted = some task.request.content := by
        unfold Task.unstarted
        rw [queued]
      have unstarted :
          task.request.content ∈
            Rpc.unstarted
              (state.connection.ends side.other).server.tasks :=
        Multiset.mem_coe.mpr (List.mem_filterMap.mpr ⟨task, member, waits⟩)
      exact
        Multiset.mem_add.mpr
          (Or.inr (Multiset.mem_add.mpr (Or.inr unstarted)))
    obtain ⟨entry, dropped, same⟩ := valid.exists_dropped asked delete
    have registered :=
      valid.registered entry (Custody.Valid.mem_of_dropped dropped)
    have ids : entry.1 = task.request.serviceObjectId := same
    rw [ids] at registered
    refine ⟨entry.2, registered, ?_⟩
    rw [if_pos delete, ← ids]
    exact ⟨dropped, fun other among => valid.ne_of_dropped dropped among⟩
  · have holds : task.packet = some task.request := by
      unfold Task.packet
      rw [queued]
    obtain ⟨onTrail, type⟩ :=
      Connection.mem_trail_of_task honest.reachable member holds
    obtain ⟨index, call, asks⟩ :=
      Connection.exists_asks honest.reachable awaited type onTrail
    obtain ⟨object, here, held⟩ := aimed.exists_target asks
    have among :
        (task.request.serviceObjectId, object) ∈
          (state.custody side).entries :=
      List.mem_append_right _ (List.mem_append_left _ (held delete))
    refine ⟨object, valid.registered _ among, ?_⟩
    rw [if_neg delete]
    exact ⟨held delete, index, call, asks, here⟩

/-- Every request that waits for a thread finds its object: a delete request
finds that of a dropped proxy, which nobody else can call, and any other
request that of the proxy that its call was made on.  The object of a method
that runs stays registered. -/
theorem requests_find_their_object
    (reached : (proxySystem Object config).ReachableWhere Undisturbed state)
    {side : Side}
    (running : (state.connection.ends side).client.receiver = .running) :
    ∀ task ∈ (state.connection.ends side.other).server.tasks,
      (task.state = .queued → ∃ object,
        (state.connection.ends side.other).server.registry.serviceObjects
            task.request.serviceObjectId = some object ∧
          if task.request.method = deleteRequest then
            (task.request.serviceObjectId, object) ∈
                (state.custody side).dropped ∧
              ∀ entry ∈
                (state.custody side).offered ++ (state.custody side).held,
                  entry.1 ≠ task.request.serviceObjectId
          else
            (task.request.serviceObjectId, object) ∈
                (state.custody side).held ∧
              ∃ index call,
                state.connection.Asks side task.request index call ∧
                  (state.custody side).targets[index]? = some object) ∧
        ∀ object, task.state = .running object →
          (state.connection.ends side.other).server.registry.serviceObjects
            task.request.serviceObjectId = some object := by
  have registered :=
    ProxyState.runsRegistered_of_reached reached side running
  intro task member
  constructor
  · exact fun queued => finds_of_queued reached running member queued
  · exact fun object runs => (registered task member object runs).2

end Runs

/-! ## Runs in which nothing fails -/

/-- What is registered is in somebody's hands, and every dropped proxy has a
delete request on its way. -/
structure Custody.Exact {Object : Type u} (custody : Custody Object)
    (connection : Connection Object) (side : Side) : Prop where
  collects : custody.noDrop = false
  claimed :
    ∀ id object, connection.objects side id = some object →
      (id, object) ∈ custody.entries
  pending :
    ∀ id, (custody.dropped.countP fun entry => entry.1 == id) ≤
      (connection.outstanding side).countP (Content.Deletes id)

theorem Drops.eq {Item : Type u} {reason : Prop}
    {before after : Multiset Item} (drops : Drops reason before after)
    (works : ¬ reason) : after = before := by
  rcases drops with same | ⟨given, _⟩
  · exact same
  · exact absurd given works

section Exactness

variable {Object : Type u} {config : Side → Config}
variable {custody next : Custody Object} {source target : Connection Object}
variable {side : Side} {event : ConnectionEvent Object}

private theorem exact_of_call
    (exact : custody.Exact source side) {request : Frame}
    (call : request.method ≠ deleteRequest)
    (taken :
      source.outstanding side =
        request.content ::ₘ target.outstanding side)
    (objects : target.objects side = source.objects side) :
    custody.Exact target side where
  collects := exact.collects
  claimed id object registered := by
    rw [objects] at registered
    exact exact.claimed id object registered
  pending id := by
    have bound := exact.pending id
    have other : ¬ Content.Deletes id request.content :=
      fun deletes => call deletes.1
    rwa [taken, Multiset.countP_cons, if_neg other] at bound

private theorem exact_of_deletes
    (exact : custody.Exact source side)
    (valid : custody.Valid source side) {request : Frame}
    (delete : request.method = deleteRequest)
    (taken :
      source.outstanding side =
        request.content ::ₘ target.outstanding side)
    (objects :
      target.objects side =
        Function.update (source.objects side) request.serviceObjectId
          none) :
    ({ custody with
        dropped :=
          custody.dropped.eraseP fun entry =>
            entry.1 == request.serviceObjectId } : Custody Object).Exact
      target side := by
  have asked : request.content ∈ source.outstanding side := by
    rw [taken]
    exact Multiset.mem_cons_self _ _
  obtain ⟨first, isFirst, perm⟩ := valid.exists_started asked delete
  generalize custody.dropped.eraseP (fun entry =>
    entry.1 == request.serviceObjectId) = rest at perm ⊢
  have whole := Custody.perm_of_dropped perm
  refine ⟨exact.collects, ?_, ?_⟩
  · intro id object registered
    have different : id ≠ request.serviceObjectId := by
      rintro rfl
      rw [objects, Function.update_self] at registered
      cases registered
    rw [objects, Function.update_of_ne different] at registered
    have member := whole.mem_iff.mp (exact.claimed id object registered)
    rcases List.mem_cons.mp member with same | stays
    · exact absurd ((congrArg Prod.fst same).trans isFirst) different
    · exact stays
  · intro id
    show rest.countP _ ≤ _
    have bound := exact.pending id
    rw [taken, Multiset.countP_cons, perm.countP_eq, List.countP_cons]
      at bound
    by_cases isId : request.serviceObjectId = id
    · have deletes : Content.Deletes id request.content := ⟨delete, isId⟩
      have counted : (first.1 == id) = true :=
        beq_iff_eq.mpr (isFirst.trans isId)
      rw [if_pos deletes, if_pos counted] at bound
      omega
    · have other : ¬ Content.Deletes id request.content :=
        fun deletes => isId deletes.2
      rw [if_neg other] at bound
      omega

theorem Custody.Exact.serves
    (exact : custody.Exact source side) (valid : custody.Valid source side)
    (serves : source.Serves side event target)
    (works : ¬ ((target.ends side).client.Failed ∨
      (target.ends side.other).multiplexer.state = .panicked)) :
    (custody.after source side event).Exact target side := by
  cases serves with
  | deletes request starts delete registered taken objects =>
      rw [Custody.after_of_starts starts, if_pos delete]
      exact exact_of_deletes exact valid delete taken objects
  | calls request object starts call registered taken objects =>
      rw [Custody.after_of_starts starts, if_neg call]
      exact exact_of_call exact call taken objects
  | panics request starts unknown taken objects =>
      have call : request.method ≠ deleteRequest := by
        intro delete
        have asked : request.content ∈ source.outstanding side := by
          rw [taken]
          exact Multiset.mem_cons_self _ _
        obtain ⟨object, known⟩ := valid.registered_of_deletes asked delete
        cases known.symm.trans unknown
      rw [Custody.after_of_starts starts, if_neg call]
      exact exact_of_call exact call taken objects
  | exports index id object inserts found drops objects =>
      subst inserts
      rw [Custody.after_of_insert found]
      refine ⟨exact.collects, ?_, ?_⟩
      · intro other registeredObject registered
        show _ ∈ custody.offered ++ [(id, object)] ++ _
        by_cases same : other = id
        · subst same
          rw [objects, Function.update_self] at registered
          cases registered
          simp
        · rw [objects, Function.update_of_ne same] at registered
          have member := exact.claimed other registeredObject registered
          rcases List.mem_append.mp member with offered | rest
          · exact
              List.mem_append_left _ (List.mem_append_left _ offered)
          · exact List.mem_append_right _ rest
      · rw [drops.eq works]
        exact exact.pending
  | rests others exports drops objects =>
      rw [Custody.after_of_rests others exports]
      refine ⟨exact.collects, ?_, ?_⟩
      · rw [objects]
        exact exact.claimed
      · rw [drops.eq works]
        exact exact.pending

theorem Custody.Exact.callMethod (exact : custody.Exact source side)
    {request : Frame} (invokes : source.Invokes side request target)
    (targets : List Object) :
    ({ custody with targets := targets } : Custody Object).Exact target
      side where
  collects := exact.collects
  claimed id object registered := by
    unfold Connection.objects at registered
    rw [invokes.server] at registered
    exact exact.claimed id object registered
  pending id := by
    rw [invokes.outstanding, Multiset.countP_cons]
    exact (exact.pending id).trans (Nat.le_add_right _ _)

theorem Custody.Exact.dropProxy (exact : custody.Exact source side)
    {index : Nat} {id : ServiceObjectId} {object : Object}
    {request : Frame} (found : custody.held[index]? = some (id, object))
    (invokes : source.Invokes side request target)
    (delete : request.method = deleteRequest)
    (same : request.serviceObjectId = id) (targets : List Object) :
    ({ custody with
        held := custody.held.eraseIdx index
        dropped := custody.dropped ++ [(id, object)]
        targets := targets } : Custody Object).Exact target side := by
  have perm := Custody.perm_dropProxy found targets
  refine ⟨exact.collects, ?_, ?_⟩
  · intro other registeredObject registered
    unfold Connection.objects at registered
    rw [invokes.server] at registered
    exact perm.mem_iff.mpr (exact.claimed other registeredObject registered)
  · intro wanted
    show (custody.dropped ++ [(id, object)]).countP _ ≤ _
    have bound := exact.pending wanted
    rw [invokes.outstanding, Multiset.countP_cons, List.countP_append,
      List.countP_singleton]
    by_cases isWanted : id = wanted
    · have deletes : Content.Deletes wanted request.content :=
        ⟨delete, same.trans isWanted⟩
      rw [if_pos deletes]
      split <;> omega
    · have different : ¬ (id == wanted) = true := by
        rw [beq_iff_eq]
        exact isWanted
      rw [if_neg different]
      omega

end Exactness

/-! ## Why a task panics -/

section Crashes

variable {Object : Type u}

private theorem crashed_of_set
    {server : Server Object} {index : Nat} {next : Task Object}
    (works : next.state ≠ .panicked)
    (crashed : ∃ task ∈ server.tasks.set index next,
      task.state = .panicked) : server.Crashed := by
  obtain ⟨task, member, panicked⟩ := crashed
  rcases List.mem_or_eq_of_mem_set member with earlier | rfl
  · exact ⟨task, earlier, panicked⟩
  · exact absurd panicked works

/-- A task panics when its method or a destructor does, or when there is no
object for its request. -/
theorem Server.Moves.crashed_cases
    {config : Config} {server : Server Object} {event : ServerEvent Object}
    {result : Server Object × List Frame}
    (moves : server.Moves config event result) (sorted : server.Sorted)
    (crashed : result.1.Crashed) :
    server.Crashed ∨ (∃ index, event = .crash index) ∨
      ∃ index request, event = .start index ∧
        server.tasks[index]? = some ⟨request, .queued⟩ ∧
        server.registry.serviceObjects request.serviceObjectId = none := by
  cases moves with
  | crash index | crashDelete index =>
      exact Or.inr (Or.inl ⟨index, rfl⟩)
  | startPanics index request found free unknown =>
      exact Or.inr (Or.inr ⟨index, request, rfl, found, unknown⟩)
  | respondPanics index request value outcome found refused =>
      have type := sorted _ (List.mem_of_getElem? found)
      obtain ⟨response, answered⟩ := Frame.exists_answered type value
      cases refused.symm.trans answered
  | startDelete | startCall | destroyed | finishDelete | finish | respond
  | account =>
      exact Or.inl (crashed_of_set (by simp) crashed)
  | drained | popFront | insert | clear =>
      exact Or.inl crashed

theorem Connection.Sound.stepsTo
    {config : Side → Config} {source target : Connection Object}
    {event : ConnectionEvent Object} {packets : List Frame}
    (sound : source.Sound) (sorted : source.Sorted)
    (taken : source.StepsTo config event target packets)
    (noCrash : ∀ index, event.event ≠ .server (.crash index))
    (finds : ∀ caller request, source.Starts caller event request →
      source.objects caller request.serviceObjectId ≠ none) :
    target.Sound := by
  intro side crashed
  obtain ⟨mover, inner⟩ := event
  rcases mover.eq_or_eq_other side with rfl | rfl
  · have moves := taken.moves
    unfold Connection.Crashed at crashed
    simp only at moves noCrash
    generalize target.ends mover = reached at moves crashed
    cases moves with
    | server event result moves =>
        rcases moves.crashed_cases (sorted mover).server crashed with
          earlier | ⟨index, rfl⟩ | ⟨index, request, rfl, found, unknown⟩
        · exact sound mover earlier
        · exact noCrash index rfl
        · have starts : source.Starts mover.other
              ⟨mover, .server (.start index)⟩ request := by
            refine ⟨mover.other_other.symm, index, rfl, ?_⟩
            rw [Side.other_other]
            exact found
          have known := finds mover.other request starts
          unfold Connection.objects at known
          rw [Side.other_other] at known
          exact known unknown
    | serverPacket packet receiving waiting =>
        obtain ⟨task, member, panicked⟩ := crashed
        rcases List.mem_append.mp member with earlier | new
        · exact sound mover ⟨task, earlier, panicked⟩
        · rw [List.mem_singleton.mp new] at panicked
          cases panicked
    | client | multiplexer | clientPacket | clientFailure | clientPanics
    | serverFailure | serverPanics =>
        exact sound mover crashed
  · have deposited := taken.deposited
    simp only [Side.other_other] at deposited
    unfold Connection.Crashed at crashed
    rw [deposited] at crashed
    exact sound side crashed

end Crashes

section Peace

variable {Object : Type u} {config : Side → Config}
variable {state : ProxyState Object}

/-- The transport works, no method and no destructor panics, nobody clears a
registry or copies a handle, and garbage is collected. -/
def Peaceful (state : ProxyState Object) (event : ProxyEvent Object) :
    Prop :=
  Kept state event ∧
    match event with
    | .take event =>
        event.event.Calm ∧ ∀ task, event.event ≠ .server (.crash task)
    | .setNoDrop _ => False
    | .importProxy _ _ | .dropHandle _ _ | .copyHandle _ _ | .importNull _
    | .dropNull _ | .callMethod _ _ _ _ | .dropProxy _ _ => True

theorem Peaceful.undisturbed {event : ProxyEvent Object}
    (peaceful : Peaceful state event) : Undisturbed state event := by
  refine ⟨peaceful.1, ?_⟩
  rintro side call rfl
  exact absurd peaceful.2.1 (by simp [EndEvent.Calm])

end Peace

/-! ## When nothing is left to do -/

section Collection

variable {Object : Type u} {config : Side → Config}
variable {state : ProxyState Object}

/-- A step of the library, or the end of a method or a destructor. -/
def Proceeding (_state : ProxyState Object) : ProxyEvent Object → Prop
  | .take event => event.event.Proceeds
  | _ => False

theorem Proceeding.peaceful {event : ProxyEvent Object}
    (proceeding : Proceeding state event) : Peaceful state event := by
  cases event with
  | take event =>
      have proceeds : Proceeds state.connection event := proceeding
      refine ⟨?_, proceeds.calm, ?_⟩
      · intro same
        rw [Proceeding, same] at proceeding
        exact proceeding
      · intro task same
        rw [Proceeding, same] at proceeding
        exact proceeding
  | importProxy | dropHandle | copyHandle | importNull | dropNull
  | callMethod | dropProxy | setNoDrop =>
      exact proceeding.elim

end Collection

theorem queuedCall_peaceful :
    (proxySystem Nat fun _ => smallConfig).ReachableWhere Peaceful
      queuedCall := by
  refine ⟨freshProxies, freshProxies_initial, ?_⟩
  refine
    TransitionSystem.runsWhere_of_forall_mem
      (Option.some_get proxiedCall_replays).symm ?_
  simp [proxiedCall, Peaceful, Kept, EndEvent.Calm, deleteRequest]

theorem requests_find_their_object_queuedCall :
    (queuedCall.connection.ends .right).server.tasks.length = 1 ∧
    ∀ task ∈ (queuedCall.connection.ends .right).server.tasks,
      (task.state = .queued → ∃ object,
        (queuedCall.connection.ends .right).server.registry.serviceObjects
            task.request.serviceObjectId = some object ∧
          if task.request.method = deleteRequest then
            (task.request.serviceObjectId, object) ∈
                (queuedCall.custody .left).dropped ∧
              ∀ entry ∈
                (queuedCall.custody .left).offered ++
                  (queuedCall.custody .left).held,
                  entry.1 ≠ task.request.serviceObjectId
          else
            (task.request.serviceObjectId, object) ∈
                (queuedCall.custody .left).held ∧
              ∃ index call,
                queuedCall.connection.Asks .left task.request index call ∧
                  (queuedCall.custody .left).targets[index]? =
                    some object) ∧
        ∀ object, task.state = .running object →
          (queuedCall.connection.ends .right).server.registry.serviceObjects
            task.request.serviceObjectId = some object :=
  ⟨by decide,
    @requests_find_their_object Nat (fun _ => smallConfig) queuedCall
      (queuedCall_peaceful.mono fun _ _ peaceful => peaceful.undisturbed)
      .left (by decide)⟩

end CloudP2P.Rpc
