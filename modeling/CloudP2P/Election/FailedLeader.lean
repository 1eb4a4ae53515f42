import CloudP2P.Election.Leadership

/-!
# Replacing a failed leader

A follower whose timer fires elects from the candidates of the last heartbeat
and itself.  `handle_election` clears this list when it installs a leader;
the `ElectionResult` arm of `run_follower` installs a leader and keeps it.
The recorded leader therefore stays out of the list exactly as long as no
follower takes a leader that is on its list.
-/

universe u

namespace CloudP2P.Election

def Node.candidateIds {Addr : Type u} (node : Node Addr) : List UInt64 :=
  node.candidates.map Candidate.id

namespace Process

variable {Addr : Type u}

/-- No follower takes an announced leader that is on its list, and no node
takes itself for its leader or counts a vote of its own. -/
def keepsLeaderOut (process : Process Addr) : NodeEvent → Bool
  | .receive (.electionResult newLeaderId) _ _ =>
      decide (process.node.state = .follower →
        newLeaderId ∉ process.node.candidateIds)
  | .receive (.heartbeat leaderId _ _) _ _ =>
      decide (process.node.state = .follower →
        leaderId ≠ process.node.id)
  | .receive (.negativeVote voterId _ _) _ _ =>
      decide (process.node.state = .leader →
        voterId ≠ process.node.id)
  | .receive (.updateMetrics _) _ _ => true
  | .act _ => true

/-- A leader is not on its own list, and the leader that a node records is
another node, which is not on its list while it follows. -/
structure LeaderOut (process : Process Addr) : Prop where
  leader :
    process.node.state = .leader →
      process.node.id ∉ process.node.candidateIds
  recorded_ne :
    ∀ leaderId, process.node.currentLeaderId = some leaderId →
      leaderId ≠ process.node.id
  recorded_out :
    process.node.state = .follower →
      ∀ leaderId, process.node.currentLeaderId = some leaderId →
        leaderId ∉ process.node.candidateIds

end Process

/-- The sender of a heartbeat is not on the list it sends. -/
def NodeMessage.SenderOut : NodeMessage → Prop
  | .heartbeat leaderId _ candidates =>
      leaderId ∉ candidates.map Candidate.id
  | .negativeVote _ _ _ => True
  | .electionResult _ => True
  | .updateMetrics _ => True

namespace Process

variable {Addr : Type u}

private theorem leaderOut_leaderReceive
    {process : Process Addr} {message : NodeMessage}
    {reading : SystemReading} {draw : UnitDraw}
    (out : LeaderOut process)
    (leader : process.node.state = .leader)
    (keeps : process.keepsLeaderOut (.receive message reading draw) = true) :
    LeaderOut
      (process.resume (process.node.leaderReceive draw message)
        .top []).1 := by
  have absent := out.leader leader
  cases message with
  | negativeVote voterId reason metrics =>
      have different : voterId ≠ process.node.id :=
        of_decide_eq_true keeps leader
      have stillAbsent :
          process.node.id ∉
            (updatePool draw voterId metrics
              process.node.candidates).map Candidate.id := by
        intro listed
        rcases mem_map_id_updatePool_iff.mp listed with same | earlier
        · exact different same.symm
        · exact absent earlier
      have notFollower :=
        Node.leaderReceive_state_ne_follower process.node draw
          (.negativeVote voterId reason metrics) leader
      rw [Node.leaderReceive_negativeVote] at notFollower ⊢
      exact
        { leader := fun _ => stillAbsent
          recorded_ne := out.recorded_ne
          recorded_out := fun follower => absurd follower notFollower }
  | heartbeat | electionResult | updateMetrics =>
      exact
        { leader := fun _ => absent
          recorded_ne := out.recorded_ne
          recorded_out := out.recorded_out }

/-- A follower that has just recorded a leader. -/
private theorem leaderOut_of_recorded
    {process : Process Addr} {leaderId : UInt64}
    (follower : process.node.state = .follower)
    (recorded : process.node.currentLeaderId = some leaderId)
    (different : leaderId ≠ process.node.id)
    (absent : leaderId ∉ process.node.candidateIds) :
    LeaderOut process := by
  have only :
      ∀ other, process.node.currentLeaderId = some other →
        other = leaderId := by
    intro other same
    rw [recorded] at same
    exact (Option.some.inj same).symm
  constructor
  · intro leader
    rw [follower] at leader
    cases leader
  · intro other same
    rw [only other same]
    exact different
  · intro _ other same
    rw [only other same]
    exact absent

private theorem leaderOut_followerReceive
    {process : Process Addr} {message : NodeMessage}
    {reading : SystemReading} {draw : UnitDraw}
    (out : LeaderOut process)
    (follower : process.node.state = .follower)
    (sender : message.SenderOut)
    (keeps : process.keepsLeaderOut (.receive message reading draw) = true) :
    LeaderOut
      (process.resume
        (process.node.followerReceive process.now reading message).1 .top
        (process.node.followerReceive process.now reading
          message).2).1 := by
  cases message with
  | heartbeat leaderId metrics candidates =>
      have different : leaderId ≠ process.node.id :=
        of_decide_eq_true keeps follower
      rw [Node.followerReceive_heartbeat]
      exact leaderOut_of_recorded follower rfl different sender
  | electionResult newLeaderId =>
      have absent : newLeaderId ∉ process.node.candidateIds :=
        of_decide_eq_true keeps follower
      rw [Node.followerReceive_electionResult]
      by_cases named : newLeaderId = process.node.id
      · rw [if_pos named]
        rw [named] at absent
        exact
          { leader := fun _ => absent
            recorded_ne := out.recorded_ne
            recorded_out := by simp }
      · rw [if_neg named]
        exact leaderOut_of_recorded follower rfl named absent
  | negativeVote | updateMetrics =>
      exact
        { leader := out.leader
          recorded_ne := out.recorded_ne
          recorded_out := out.recorded_out }

theorem LeaderOut.moves
    {process : Process Addr} {event : NodeEvent}
    {result : Process Addr × List Effect}
    (out : LeaderOut process)
    (keeps : process.keepsLeaderOut event = true)
    (received :
      ∀ message reading draw, event = .receive message reading draw →
        message.SenderOut)
    (moves : Moves process event result) :
    LeaderOut result.1 := by
  cases moves with
  | elapse | beat | listen | idle =>
      exact
        { leader := out.leader
          recorded_ne := out.recorded_ne
          recorded_out := out.recorded_out }
  | expire =>
      exact
        { leader := by simp
          recorded_ne := out.recorded_ne
          recorded_out := by simp }
  | announce reading draw draws newLeaderId defacto =>
      exact
        { leader := by simp [Node.updateCandidate, defacto]
          recorded_ne := out.recorded_ne
          recorded_out := by simp [Node.updateCandidate, defacto] }
  | conclude newLeaderId =>
      exact
        { leader := by
            simp [Node.concludeElection, Node.candidateIds]
          recorded_ne := out.recorded_ne
          recorded_out := by
            simp [Node.concludeElection, Node.candidateIds] }
  | leaderReceive message reading draw leader =>
      exact leaderOut_leaderReceive out leader keeps
  | followerReceive message reading draw follower =>
      exact
        leaderOut_followerReceive out follower
          (received message reading draw rfl) keeps

theorem LeaderOut.sends
    {process : Process Addr} {event : NodeEvent} {message : NodeMessage}
    (out : LeaderOut process) (sends : process.Sends event message) :
    message.SenderOut := by
  cases sends with
  | heartbeat reading leader =>
      exact out.leader leader
  | electionResult | negativeVote =>
      trivial

/-- The list of a timed-out node does not change before its election. -/
private theorem moves_before_announce
    {process : Process Addr} {event : NodeEvent}
    {result : Process Addr × List Effect}
    (defacto : process.node.state = .defactoLeader)
    (atTop : process.pc = .top)
    (moves : Moves process event result)
    (waits :
      ∀ reading draw draws,
        event ≠ .act (.announce reading draw draws)) :
    result.1.node = process.node ∧ result.1.pc = process.pc := by
  have inside : process.pc ≠ .accept := by
    rw [atTop]
    nofun
  rcases moves.duringElection defacto inside with
    unchanged | ⟨_, reading, draw, draws, announces⟩ | ⟨notTop, _⟩
  · exact unchanged
  · exact False.elim (waits reading draw draws announces)
  · exact False.elim (notTop atTop)

end Process

/-! ## Runs of a cluster -/

section Runs

variable {Addr : Type u} {members : Membership Addr}

/-- The process that an event reaches keeps the leader out. -/
def Cluster.keepsLeaderOut (cluster : Cluster Addr)
    (event : ClusterEvent Addr) : Bool :=
  match cluster.localEvent event with
  | some (addr, inner) => (cluster.processes addr).keepsLeaderOut inner
  | none => true

def Cluster.LeadersOut (cluster : Cluster Addr) : Prop :=
  cluster.Holds (fun _ process => process.LeaderOut)
    fun envelope => envelope.message.SenderOut

/-- Neither `addr` announces a result nor, therefore, does its election
end. -/
def Cluster.AwaitsElection (addr : Addr) (_ : Cluster Addr)
    (event : ClusterEvent Addr) : Prop :=
  ∀ reading draw draws,
    event ≠ .act addr (.announce reading draw draws)

private theorem keepsLeaderOut_of_localEvent
    {cluster : Cluster Addr} {event : ClusterEvent Addr} {addr : Addr}
    {inner : NodeEvent} (keeps : cluster.keepsLeaderOut event = true)
    (taken : cluster.localEvent event = some (addr, inner)) :
    (cluster.processes addr).keepsLeaderOut inner = true := by
  rw [Cluster.keepsLeaderOut, taken] at keeps
  exact keeps

variable [DecidableEq Addr]

theorem Cluster.LeadersOut.moves
    {cluster target : Cluster Addr} {event : ClusterEvent Addr}
    (out : cluster.LeadersOut)
    (keeps : cluster.keepsLeaderOut event = true)
    (moves : Cluster.Moves cluster event target) :
    target.LeadersOut := by
  refine Cluster.Holds.moves out moves ?_ ?_
  · intro addr inner result taken moved
    have received := Cluster.Holds.received out taken
    have processKeeps := keepsLeaderOut_of_localEvent keeps taken
    exact (out.processes addr).moves processKeeps received moved
  · intro addr inner result _ moved envelope sent
    exact
      (out.processes addr).sends (moved.sends (mem_sends_iff.mp sent).2)

theorem leadersOut_of_reachableWhere
    {cluster : Cluster Addr}
    (reachable :
      (clusterSystem members).ReachableWhere
        (fun source event => source.keepsLeaderOut event = true)
        cluster) :
    cluster.LeadersOut := by
  have start :
      ∀ source, (clusterSystem members).initial source →
        source.LeadersOut := by
    intro source initial
    constructor
    · intro addr
      obtain ⟨extraSeconds, reading, now, fresh⟩ := initial.2 addr
      rw [fresh]
      constructor <;> simp [Process.start, Node.new]
    · rw [initial.1]
      simp
  have step :
      ∀ source event target, source.LeadersOut →
        source.keepsLeaderOut event = true →
          (clusterSystem members).step source event = some target →
            target.LeadersOut := by
    intro source event target out keeps stepped
    exact out.moves keeps (Cluster.moves_of_step stepped)
  exact reachable.invariant start step

/-- A node that is about to elect, seen from outside. -/
structure Cluster.Elects (cluster : Cluster Addr) (addr : Addr)
    (node : Node Addr) : Prop where
  node_eq : (cluster.processes addr).node = node
  defacto : node.state = .defactoLeader
  atTop : (cluster.processes addr).pc = .top

private theorem Cluster.Elects.commit
    {cluster : Cluster Addr} {addr actor : Addr} {node : Node Addr}
    {event : NodeEvent} {result : Process Addr × List Effect}
    (elects : cluster.Elects addr node)
    (moves : Process.Moves (cluster.processes actor) event result)
    (waits :
      actor = addr →
        ∀ reading draw draws,
          event ≠ .act (.announce reading draw draws))
    (inFlight : List (Envelope Addr)) :
    (cluster.commit actor result inFlight).Elects addr node := by
  by_cases acts : addr = actor
  · subst acts
    have defacto :
        (cluster.processes addr).node.state = .defactoLeader := by
      rw [elects.node_eq, elects.defacto]
    obtain ⟨sameNode, samePc⟩ :=
      Process.moves_before_announce defacto elects.atTop moves (waits rfl)
    constructor
    · rw [Cluster.commit_processes_self, sameNode, elects.node_eq]
    · exact elects.defacto
    · rw [Cluster.commit_processes_self, samePc, elects.atTop]
  · constructor
    · rw [cluster.commit_processes_of_ne acts, elects.node_eq]
    · exact elects.defacto
    · rw [cluster.commit_processes_of_ne acts, elects.atTop]

/-- What the rest of the cluster does leaves the election of a node alone. -/
theorem Cluster.Elects.moves
    {cluster target : Cluster Addr} {event : ClusterEvent Addr}
    {addr : Addr} {node : Node Addr}
    (elects : cluster.Elects addr node)
    (waits : cluster.AwaitsElection addr event)
    (moves : Cluster.Moves cluster event target) :
    target.Elects addr node := by
  cases moves with
  | act actor inner result moves =>
      refine elects.commit moves ?_ _
      intro same reading draw draws equal
      cases equal
      exact waits reading draw draws (same ▸ rfl)
  | deliver index actor message reading draw result found moves =>
      refine elects.commit moves ?_ _
      intro _ _ _ _ equal
      cases equal
  | lose index valid =>
      exact
        { node_eq := elects.node_eq
          defacto := elects.defacto
          atTop := elects.atTop }

private theorem elects_of_timeout
    {before fired : Cluster Addr} {addr : Addr}
    (fires : before.timeoutFires (.act addr .checkTimer) = true)
    (timedOut :
      (clusterSystem members).step before (.act addr .checkTimer) =
        some fired) :
    (before.processes addr).node.state = .follower ∧
      fired.Elects addr
        { (before.processes addr).node with state := .defactoLeader } := by
  have moved : Cluster.Moves before (.act addr .checkTimer) fired :=
    Cluster.moves_of_step timedOut
  cases moved with
  | act _ _ result moves =>
      cases moves with
      | expire follower atTop expired =>
          refine ⟨follower, ?_, rfl, ?_⟩ <;> simp
      | listen follower atTop fresh =>
          cases fires.symm.trans fresh

/-- The result of an election is the elector or one of its candidates. -/
private theorem elected_mem
    {waiting announced : Cluster Addr} {addr : Addr} {node : Node Addr}
    {newLeaderId : UInt64} {reading : SystemReading} {draw : UnitDraw}
    {draws : Nat → UnitDraw}
    (elects : waiting.Elects addr node)
    (elected :
      (clusterSystem members).step waiting
        (.act addr (.announce reading draw draws)) = some announced)
    (result :
      (announced.processes addr).pc = .announced newLeaderId) :
    newLeaderId = node.id ∨ newLeaderId ∈ node.candidateIds := by
  have announcement :
      Cluster.Moves waiting (.act addr (.announce reading draw draws))
        announced :=
    Cluster.moves_of_step elected
  cases announcement with
  | act _ _ stepResult moves =>
      cases moves with
      | announce _ _ _ announcedId defacto atTop found =>
          rw [Cluster.commit_processes_self, Process.resume_pc] at result
          cases result
          rw [elects.node_eq] at found
          have listed := electLeader_mem found
          exact mem_map_id_updatePool_iff.mp listed

/-- A follower that times out while no leader was ever taken from its own
list elects another node than the leader it has recorded. -/
theorem timeout_elects_another
    {before fired waiting announced : Cluster Addr} {addr : Addr}
    {leaderId newLeaderId : UInt64} {reading : SystemReading}
    {draw : UnitDraw} {draws : Nat → UnitDraw}
    (reachable :
      (clusterSystem members).ReachableWhere
        (fun source event => source.keepsLeaderOut event = true) before)
    (recorded :
      (before.processes addr).node.currentLeaderId = some leaderId)
    (fires : before.timeoutFires (.act addr .checkTimer) = true)
    (timedOut :
      (clusterSystem members).step before (.act addr .checkTimer) =
        some fired)
    (waits :
      (clusterSystem members).RunsWhere
        (Cluster.AwaitsElection addr) fired waiting)
    (elected :
      (clusterSystem members).step waiting
        (.act addr (.announce reading draw draws)) = some announced)
    (result :
      (announced.processes addr).pc = .announced newLeaderId) :
    newLeaderId ≠ leaderId := by
  have out := (leadersOut_of_reachableWhere reachable).processes addr
  obtain ⟨follower, enters⟩ := elects_of_timeout fires timedOut
  have step :
      ∀ source event target,
        source.Elects addr
            { (before.processes addr).node with
              state := .defactoLeader } →
          source.AwaitsElection addr event →
            (clusterSystem members).step source event = some target →
              target.Elects addr
                { (before.processes addr).node with
                  state := .defactoLeader } := by
    intro source event target elects awaits stepped
    exact elects.moves awaits (Cluster.moves_of_step stepped)
  have elects := waits.preserves step enters
  rcases elected_mem elects elected result with same | listed
  · rw [same]
    exact (out.recorded_ne leaderId recorded).symm
  · intro same
    have absent := out.recorded_out follower leaderId recorded
    rw [same] at listed
    exact absent listed

end Runs

/-! ## A leader that left its own list -/

/-- Node 1 leads, node 3 hears a heartbeat of it, and both fall silent until
the timer of node 3 fires. -/
def leaderHeard : List (ClusterEvent TrioAddr) :=
  candidacyAt .one (SystemReading.ofLoads 10 10) ++
    [.act .one .conclude, .act .one (.beat (SystemReading.ofLoads 10 10)),
     .act .three .checkTimer,
     .deliver 3 (SystemReading.ofLoads 10 10) UnitDraw.zero,
     .act .three (.elapse (fromSecs 6))]

def orphaned : Cluster TrioAddr :=
  ((clusterSystem trio).checkedRun Cluster.keepsLeaderOut
    (plainCluster trio) leaderHeard).get (by decide +kernel)

theorem orphaned_reachable :
    (clusterSystem trio).ReachableWhere
      (fun source event => source.keepsLeaderOut event = true) orphaned :=
  ⟨plainCluster trio, plainCluster_initial trio,
    TransitionSystem.runsWhere_of_checkedRun
      (fun _ _ checked => checked) (Option.some_get _).symm⟩

def orphanFires : Cluster TrioAddr :=
  ((clusterSystem trio).step orphaned (.act .three .checkTimer)).get
    (by decide +kernel)

def orphanElects : Cluster TrioAddr :=
  ((clusterSystem trio).step orphanFires
    (.act .three (.plainAnnounce (SystemReading.ofLoads 10 10)))).get
      (by decide +kernel)

theorem orphanElects_step :
    (clusterSystem trio).step orphanFires
        (.act .three (.plainAnnounce (SystemReading.ofLoads 10 10))) =
      some orphanElects :=
  (Option.some_get _).symm

theorem timeout_elects_another_orphan :
    (orphaned.processes .three).node.currentLeaderId = some 1 ∧
      (orphanElects.processes .three).pc = .announced 3 ∧
      (3 : UInt64) ≠ 1 := by
  have recorded :
      (orphaned.processes .three).node.currentLeaderId = some 1 := by
    decide +kernel
  have result : (orphanElects.processes .three).pc = .announced 3 := by
    decide +kernel
  exact
    ⟨recorded, result,
      timeout_elects_another orphaned_reachable recorded
        (by decide +kernel) (Option.some_get _).symm
        (TransitionSystem.RunsWhere.refl orphanFires)
        orphanElects_step result⟩

/-! ## A leader that was a candidate -/

/-- Node 2 votes against node 1 and is on its list when node 3 hears the next
heartbeat; node 3 votes as well, node 1 elects node 2, and node 3 takes this
result. -/
def voterElected : List (ClusterEvent TrioAddr) :=
  firstVote ++
    [.deliver 3 (SystemReading.ofLoads 50 50) UnitDraw.zero,
     .act .one (.beat (SystemReading.ofLoads 50 50)),
     .act .three .checkTimer,
     .deliver 5 (SystemReading.ofLoads 10 10) UnitDraw.zero,
     .deliver 5 (SystemReading.ofLoads 50 50) UnitDraw.zero,
     .act .one (.plainAnnounce (SystemReading.ofLoads 50 50)),
     .act .one .conclude,
     .act .three .checkTimer,
     .deliver 7 (SystemReading.ofLoads 10 10) UnitDraw.zero]

/-- The list of node 3 still holds node 2, and no heartbeat of node 2
comes. -/
def staleFollower : Cluster TrioAddr :=
  ((clusterSystem trio).run (plainCluster trio)
    (voterElected ++ [.act .three (.elapse (fromSecs 6))])).get
      (by decide +kernel)

def reelection : Cluster TrioAddr :=
  ((clusterSystem trio).run staleFollower
    [.act .three .checkTimer,
     .act .three (.plainAnnounce (SystemReading.ofLoads 10 10))]).get
      (by decide +kernel)

theorem failed_leader_reelected :
    (clusterSystem trio).Reachable staleFollower ∧
      (staleFollower.processes .three).node.state = .follower ∧
      (staleFollower.processes .three).node.currentLeaderId = some 2 ∧
      staleFollower.timeoutFires (.act .three .checkTimer) = true ∧
      (clusterSystem trio).run staleFollower
          [.act .three .checkTimer,
           .act .three (.plainAnnounce (SystemReading.ofLoads 10 10))] =
        some reelection ∧
      (reelection.processes .three).pc = .announced 2 := by
  refine
    ⟨?_, by decide +kernel, by decide +kernel, by decide +kernel,
      (Option.some_get _).symm, by decide +kernel⟩
  exact TransitionSystem.reachable_of_run (plainCluster_initial trio) _

end CloudP2P.Election
