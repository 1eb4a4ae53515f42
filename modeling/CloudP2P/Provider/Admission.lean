import CloudP2P.Provider.Service

/-!
# Admission of clients

Only the leader is meant to accept clients and to export the service to them.
The connection loop and the sweep check `CURRENT_LEADER_ID` at their heads
and act on it later; in between the node task may have stored another leader.
-/

universe u v

namespace CloudP2P.Provider

/-- The endpoints for which the loop may still spawn an accept task before
it is at its head again. -/
def ConnectionPc.untried {Endpoint : Type u} (queue : List Endpoint) :
    ConnectionPc Endpoint → List Endpoint
  | .offering rest => rest ++ queue
  | .draining => queue
  | .head => []
  | .resting => []
  | .stopped => []

/-- The connections that the sweep may still probe before it is at its head
again. -/
def StegPc.unprobed {Ends : Type v} (vec : List Ends) :
    StegPc Ends → List Ends
  | .waiting => vec
  | .sweeping _ rest => rest
  | .head => []
  | .resting => []
  | .stopped => []

namespace Service

variable {Endpoint : Type u} {Ends : Type v}

/-- Nothing is left to do that an earlier check of the leader has
permitted. -/
structure Settled (service : Service Endpoint Ends) : Prop where
  tasks : ∀ task ∈ service.tasks, task.pc.isFinished = true
  untried : service.connection.untried service.requestQueue = []
  unprobed : service.steg.unprobed service.transportEndsVec = []

instance (service : Service Endpoint Ends) : Decidable service.Settled :=
  decidable_of_iff
    ((∀ task ∈ service.tasks, task.pc.isFinished = true) ∧
      service.connection.untried service.requestQueue = [] ∧
      service.steg.unprobed service.transportEndsVec = [])
    ⟨fun settled => ⟨settled.1, settled.2.1, settled.2.2⟩,
      fun settled =>
        ⟨settled.tasks, settled.untried, settled.unprobed⟩⟩

/-- Another leader is stored only when everything is settled. -/
def storesSettled (myId : UInt64) (service : Service Endpoint Ends) :
    ServiceEvent Ends → Bool
  | .storeLeader leaderId =>
      decide (leaderId ≠ myId → service.Settled)
  | .connection _ => true
  | .task _ _ => true
  | .steg _ => true

/-- Without leadership everything is settled. -/
def SettledUnlessLeader (myId : UInt64)
    (service : Service Endpoint Ends) : Prop :=
  service.currentLeaderId ≠ myId → service.Settled

variable [DecidableEq Ends]

/-- The event admits a client: an accept task pushes its ends, or the sweep
inserts a new context. -/
def admits (service : Service Endpoint Ends) : ServiceEvent Ends → Bool
  | .task _ .push => true
  | .steg (.probe true) =>
      match service.steg with
      | .sweeping _ (ends :: _) => decide (ends ∉ service.contexts)
      | _ => false
  | _ => false

section Invariant

variable {myId : UInt64} {endpoints : List Endpoint}
variable {service target : Service Endpoint Ends}

omit [DecidableEq Ends] in
private theorem settled_connection
    {event : ConnectionEvent} (settled : service.Settled)
    (other : service.currentLeaderId ≠ myId)
    (moves : ConnectionMoves myId endpoints service event target) :
    target.Settled := by
  have untried := settled.untried
  cases moves with
  | stay =>
      exact settled
  | enter atHead leads =>
      exact False.elim (other leads)
  | offer endpoint rest offering | queue endpoint rest offering =>
      rw [offering] at untried
      cases untried
  | lockQueue offering =>
      rw [offering] at untried
      exact
        { tasks := settled.tasks
          untried := untried
          unprobed := settled.unprobed }
  | drain endpoint queue draining queued =>
      rw [draining, queued] at untried
      cases untried
  | drained acquired draining =>
      exact
        { tasks := settled.tasks
          untried := rfl
          unprobed := settled.unprobed }
  | rest stop resting =>
      refine
        { tasks := settled.tasks
          untried := ?_
          unprobed := settled.unprobed }
      cases stop <;> rfl

private theorem settled_steg
    {event : StegEvent} (settled : service.Settled)
    (other : service.currentLeaderId ≠ myId)
    (moves : StegMoves myId service event target) :
    target.Settled := by
  have unprobed := settled.unprobed
  cases moves with
  | stay =>
      exact settled
  | enter atHead leads =>
      exact False.elim (other leads)
  | lockVec waiting =>
      rw [waiting] at unprobed
      exact
        { tasks := settled.tasks
          untried := settled.untried
          unprobed := unprobed }
  | retain kept ends rest sweeping | remove kept ends rest sweeping =>
      rw [sweeping] at unprobed
      cases unprobed
  | release kept sweeping =>
      exact
        { tasks := settled.tasks
          untried := settled.untried
          unprobed := rfl }
  | rest stop resting =>
      refine
        { tasks := settled.tasks
          untried := settled.untried
          unprobed := ?_ }
      cases stop <;> rfl

omit [DecidableEq Ends] in
/-- In a settled state no accept task can move. -/
private theorem not_settled_of_taskMoves
    {index : Nat} {task : AcceptTask Endpoint Ends}
    {event : TaskEvent Ends}
    (found : service.tasks[index]? = some task)
    (moves : TaskMoves service index task event target) :
    ¬ service.Settled := by
  intro settled
  have finished := settled.tasks task (List.mem_of_getElem? found)
  cases moves with
  | accept _ pc | connect _ pc | create _ pc | push _ pc =>
      rw [pc] at finished
      cases finished

theorem SettledUnlessLeader.moves
    {event : ServiceEvent Ends}
    (invariant : SettledUnlessLeader myId service)
    (admitted : service.storesSettled myId event = true)
    (moves : Moves myId endpoints service event target) :
    SettledUnlessLeader myId target := by
  intro other
  have unlessStored :
      (∀ leaderId, event ≠ .storeLeader leaderId) →
        service.currentLeaderId ≠ myId := by
    intro noStore
    rw [← moves.currentLeaderId noStore]
    exact other
  cases moves with
  | storeLeader leaderId =>
      have settled := of_decide_eq_true admitted other
      exact
        { tasks := settled.tasks
          untried := settled.untried
          unprobed := settled.unprobed }
  | connection event target moves =>
      have before := unlessStored (by simp)
      exact settled_connection (invariant before) before moves
  | task index task event target found moves =>
      have settled := invariant (unlessStored (by simp))
      exact False.elim (not_settled_of_taskMoves found moves settled)
  | steg event target moves =>
      have before := unlessStored (by simp)
      exact settled_steg (invariant before) before moves

theorem settledUnlessLeader_of_reachableWhere
    (reachable :
      (serviceSystem myId endpoints).ReachableWhere
        (fun source event => source.storesSettled myId event = true)
        service) :
    SettledUnlessLeader myId service := by
  have start :
      ∀ source : Service Endpoint Ends,
        (serviceSystem myId endpoints).initial source →
          SettledUnlessLeader myId source := by
    intro source initial _
    have fresh : source = Service.start := initial
    rw [fresh]
    exact
      { tasks := by simp [Service.start]
        untried := rfl
        unprobed := rfl }
  have step :
      ∀ (source : Service Endpoint Ends) event target,
        SettledUnlessLeader myId source →
          source.storesSettled myId event = true →
            (serviceSystem myId endpoints).step source event =
                some target →
              SettledUnlessLeader myId target := by
    intro source event target invariant admitted stepped
    exact invariant.moves admitted (moves_of_step stepped)
  exact reachable.invariant start step

/-- While another leader is stored only in settled states, clients are
admitted only under the leadership of this node. -/
theorem admits_as_leader
    {event : ServiceEvent Ends}
    (reachable :
      (serviceSystem myId endpoints).ReachableWhere
        (fun source event => source.storesSettled myId event = true)
        service)
    (stepped :
      (serviceSystem myId endpoints).step service event = some target)
    (admission : service.admits event = true) :
    service.currentLeaderId = myId := by
  have invariant := settledUnlessLeader_of_reachableWhere reachable
  have moves : Moves myId endpoints service event target :=
    moves_of_step stepped
  by_contra other
  have settled := invariant other
  cases moves with
  | storeLeader | connection =>
      cases admission
  | task index task event target found moves =>
      exact not_settled_of_taskMoves found moves settled
  | steg event target moves =>
      have unprobed := settled.unprobed
      cases moves with
      | retain kept ends rest sweeping =>
          rw [sweeping] at unprobed
          cases unprobed
      | stay | enter | lockVec | remove | release | rest =>
          cases admission

end Invariant

end Service

/-! ## One client -/

/-- The node with id 2 is made leader and spawns an accept task. -/
def acceptAsLeader : List (ServiceEvent Nat) :=
  [.storeLeader 2, .connection .check, .connection (.offer true)]

/-- The accept task gets as far as the lock of `transport_ends_vec`. -/
def connectClient : List (ServiceEvent Nat) :=
  [.task 0 (.accepted true), .task 0 (.connected true),
   .task 0 (.created (some 7))]

def clientWaits : Service Unit Nat :=
  ((serviceSystem 2 [()]).checkedRun
    (fun source event => source.storesSettled 2 event) Service.start
    (acceptAsLeader ++ connectClient)).get (by decide +kernel)

theorem clientWaits_reachable :
    (serviceSystem 2 [()]).ReachableWhere
      (fun source event => source.storesSettled 2 event = true)
      clientWaits :=
  ⟨Service.start, rfl,
    TransitionSystem.runsWhere_of_checkedRun
      (fun _ _ checked => checked) (Option.some_get _).symm⟩

def clientAdmitted : Service Unit Nat :=
  ((serviceSystem 2 [()]).step clientWaits (.task 0 .push)).get
    (by decide +kernel)

theorem clientAdmitted_step :
    (serviceSystem 2 [()]).step clientWaits (.task 0 .push) =
      some clientAdmitted :=
  (Option.some_get _).symm

theorem admits_as_leader_client :
    clientWaits.admits (.task 0 .push) = true ∧
      clientWaits.currentLeaderId = 2 := by
  have admission : clientWaits.admits (.task 0 .push) = true := rfl
  exact
    ⟨admission,
      Service.admits_as_leader clientWaits_reachable clientAdmitted_step
        admission⟩

/-- Leadership is lost while the accept task waits for its client. -/
def lateClient : Service Unit Nat :=
  ((serviceSystem 2 [()]).run Service.start
    (acceptAsLeader ++ [.storeLeader 1] ++ connectClient)).get
      (by decide +kernel)

/-- Leadership is lost while the sweep waits for `transport_ends_vec`. -/
def lateSweep : Service Unit Nat :=
  ((serviceSystem 2 [()]).run Service.start
    (acceptAsLeader ++ connectClient ++
      [.task 0 .push, .steg .check, .storeLeader 1,
       .steg .lockVec])).get (by decide +kernel)

/-- Both admissions take place under another leader. -/
theorem client_admitted_by_follower :
    ((serviceSystem 2 [()]).Reachable lateClient ∧
      ((serviceSystem 2 [()]).step lateClient
        (.task 0 .push)).isSome = true ∧
      lateClient.admits (.task 0 .push) = true ∧
      lateClient.currentLeaderId ≠ 2) ∧
    (serviceSystem 2 [()]).Reachable lateSweep ∧
      ((serviceSystem 2 [()]).step lateSweep
        (.steg (.probe true))).isSome = true ∧
      lateSweep.admits (.steg (.probe true)) = true ∧
      lateSweep.currentLeaderId ≠ 2 := by
  refine
    ⟨⟨?_, by decide +kernel, by decide +kernel, by decide +kernel⟩,
      ?_, by decide +kernel, by decide +kernel, by decide +kernel⟩
  · exact TransitionSystem.reachable_of_run rfl _
  · exact TransitionSystem.reachable_of_run rfl _

end CloudP2P.Provider
