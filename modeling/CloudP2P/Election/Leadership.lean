import CloudP2P.Bookkeeping
import CloudP2P.Election.Cluster

/-!
# Conservation of leadership

A leadership is held by a leader, or by a process that is about to elect, or
by one that has elected itself and has not finished, or by an
`ElectionResult` on its way to the node it names.  The number of leaderships
only grows when the heartbeat timeout of a follower fires.
-/

universe u

namespace CloudP2P.Election

namespace Process

variable {Addr : Type u}

/-- The election result of this process is on its way. -/
def hasAnnounced (process : Process Addr) : Bool :=
  match process.pc with
  | .announced _ => true
  | .top => false
  | .accept => false

/-- The leaderships that a process holds. -/
def leadership (process : Process Addr) : Nat :=
  match process.node.state, process.pc with
  | .leader, _ => 1
  | .follower, _ => 0
  | .defactoLeader, .announced newLeaderId =>
      if newLeaderId = process.node.id then 1 else 0
  | .defactoLeader, _ => 1

/-- A message that makes its receiver leader, should it still follow. -/
def isNamedBy (process : Process Addr) : NodeMessage → Bool
  | .electionResult newLeaderId => decide (newLeaderId = process.node.id)
  | .heartbeat _ _ _ => false
  | .negativeVote _ _ _ => false
  | .updateMetrics _ => false

/-- What a process step consumes of the leaderships in flight. -/
def consumed (process : Process Addr) : NodeEvent → Nat
  | .receive message _ _ => if process.isNamedBy message then 1 else 0
  | .act _ => 0

/-- The event is a check of the timer that finds it expired. -/
def timerFires (process : Process Addr) : NodeEvent → Bool
  | .act .checkTimer => process.node.heartbeatExpired process.now
  | _ => false

private theorem leadership_leaderReceive
    {process : Process Addr}
    (leader : process.node.state = .leader)
    (draw : UnitDraw) (message : NodeMessage) :
    (process.resume (process.node.leaderReceive draw message)
        .top []).1.leadership = 1 := by
  cases message with
  | negativeVote voterId reason metrics =>
      rw [Node.leaderReceive_negativeVote]
      by_cases ended :
          2 ≤ (process.node.negativeVotesReceived.insert
            voterId reason).keys.length
      · simp only [leadership, resume, if_pos ended]
      · simp only [leadership, resume, if_neg ended, leader]
  | heartbeat | electionResult | updateMetrics =>
      simp only [leadership, resume, Node.leaderReceive, leader]

private theorem leadership_followerReceive
    {process : Process Addr}
    (follower : process.node.state = .follower)
    (reading : SystemReading) (message : NodeMessage) :
    (process.resume
        (process.node.followerReceive process.now reading message).1 .top
        (process.node.followerReceive process.now reading
          message).2).1.leadership =
      if process.isNamedBy message then 1 else 0 := by
  cases message with
  | heartbeat leaderId metrics candidates =>
      rw [Node.followerReceive_heartbeat]
      simp [leadership, resume, follower, isNamedBy]
  | electionResult newLeaderId =>
      rw [Node.followerReceive_electionResult]
      by_cases named : newLeaderId = process.node.id
      · simp [leadership, resume, named, isNamedBy]
      · simp [leadership, resume, named, follower, isNamedBy]
  | negativeVote | updateMetrics =>
      simp [leadership, resume, Node.followerReceive, follower, isNamedBy]

end Process

/-- An election result addressed to the very node it names. -/
def Envelope.isGrant {Addr : Type u} (idOf : Addr → UInt64)
    (envelope : Envelope Addr) : Bool :=
  match envelope.message with
  | .electionResult newLeaderId =>
      decide (newLeaderId = idOf envelope.dest)
  | .heartbeat _ _ _ => false
  | .negativeVote _ _ _ => false
  | .updateMetrics _ => false

section ProcessStep

variable {Addr : Type u} {idOf : Addr → UInt64}

/-- Only the announcement of an election sends election results. -/
private theorem countP_isGrant_sends_eq_zero
    {process : Process Addr} {event : NodeEvent}
    {result : Process Addr × List Effect}
    (moves : Process.Moves process event result)
    (silent :
      ∀ reading draw draws,
        event ≠ .act (.announce reading draw draws)) :
    (result.1.node.sends result.2).countP (Envelope.isGrant idOf) = 0 := by
  rw [List.countP_eq_zero]
  intro envelope member
  have sends := moves.sends (mem_sends_iff.mp member).2
  cases envelope with
  | mk dest message =>
      cases sends with
      | heartbeat | negativeVote =>
          simp [Envelope.isGrant]
      | electionResult reading draw draws =>
          exact False.elim (silent reading draw draws rfl)

/-- An announcement grants at most one leadership, and none to its sender. -/
private theorem countP_isGrant_broadcast
    {node : Node Addr} {addr : Addr}
    (injective : Function.Injective idOf)
    (nodup : node.clientEndpoints.Nodup)
    (notSelf : addr ∉ node.clientEndpoints)
    (newLeaderId : UInt64) :
    (node.broadcastMessage (.electionResult newLeaderId)).countP
        (Envelope.isGrant idOf) ≤
      if newLeaderId = idOf addr then 0 else 1 := by
  unfold Node.broadcastMessage
  rw [List.countP_map]
  by_cases self : newLeaderId = idOf addr
  · rw [if_pos self, Nat.le_zero, List.countP_eq_zero]
    intro peer member granted
    have named : newLeaderId = idOf peer := by
      simpa [Envelope.isGrant] using granted
    have same : peer = addr := injective (named.symm.trans self)
    exact notSelf (same ▸ member)
  · rw [if_neg self]
    by_cases known : ∃ peer ∈ node.clientEndpoints, newLeaderId = idOf peer
    · obtain ⟨unique, _, named⟩ := known
      refine countP_le_one_of_nodup _ nodup unique ?_
      intro peer _ granted
      have alsoNamed : newLeaderId = idOf peer := by
        simpa [Envelope.isGrant] using granted
      exact injective (alsoNamed.symm.trans named)
    · have none :
          node.clientEndpoints.countP
            (Envelope.isGrant idOf ∘
              fun peer => ⟨peer, .electionResult newLeaderId⟩) = 0 := by
        rw [List.countP_eq_zero]
        intro peer member granted
        exact known ⟨peer, member, by
          simpa [Envelope.isGrant] using granted⟩
      omega

/-- One process step neither creates nor duplicates a leadership, unless it
is a timeout. -/
theorem leadership_moves
    {process : Process Addr} {event : NodeEvent}
    {result : Process Addr × List Effect} {addr : Addr}
    (injective : Function.Injective idOf)
    (nodup : process.node.clientEndpoints.Nodup)
    (notSelf : addr ∉ process.node.clientEndpoints)
    (idEq : process.node.id = idOf addr)
    (moves : Process.Moves process event result)
    (quiet : process.timerFires event = false) :
    result.1.leadership +
        (result.1.node.sends result.2).countP (Envelope.isGrant idOf) ≤
      process.leadership + process.consumed event := by
  cases moves with
  | announce reading draw draws newLeaderId defacto atTop elected =>
      have granted :=
        countP_isGrant_broadcast injective nodup notSelf newLeaderId
      have before : process.leadership = 1 := by
        simp only [Process.leadership, defacto, atTop]
      have after :
          (process.resume
            (process.node.updateCandidate draw process.node.id
              (collectMetrics reading)) (.announced newLeaderId)
            [.broadcast (.electionResult newLeaderId)]).1.leadership =
              if newLeaderId = idOf addr then 1 else 0 := by
        simp only [Process.leadership, Process.resume,
          Node.updateCandidate, defacto, idEq]
      have sent :
          (process.node.updateCandidate draw process.node.id
            (collectMetrics reading)).sends
              [.broadcast (.electionResult newLeaderId)] =
            process.node.broadcastMessage
              (.electionResult newLeaderId) :=
        List.append_nil _
      rw [after, before, Process.resume_node, Process.resume_effects, sent]
      by_cases self : newLeaderId = idOf addr
      · rw [if_pos self] at granted ⊢
        omega
      · rw [if_neg self] at granted ⊢
        omega
  | expire follower atTop expired =>
      cases expired.symm.trans quiet
  | elapse duration =>
      exact Nat.le_refl _
  | beat reading leader atTop =>
      rw [countP_isGrant_sends_eq_zero
        (Process.Moves.beat reading leader atTop) (by simp)]
      simp only [Process.leadership, Process.resume, Node.leaderBeat,
        leader]
      omega
  | listen follower atTop fresh =>
      simp [Process.leadership, Process.resume, follower, Node.sends]
  | idle accepting =>
      cases state : process.node.state <;>
        simp [Process.leadership, Process.resume, state, accepting,
          Node.sends]
  | conclude newLeaderId defacto announced =>
      rw [countP_isGrant_sends_eq_zero
        (Process.Moves.conclude newLeaderId defacto announced) (by simp)]
      by_cases won : newLeaderId = process.node.id
      · simp [Process.leadership, Process.resume, Node.concludeElection,
          won, defacto, announced]
      · simp [Process.leadership, Process.resume, Node.concludeElection,
          won]
  | leaderReceive message reading draw leader accepting =>
      rw [countP_isGrant_sends_eq_zero
        (Process.Moves.leaderReceive message reading draw leader accepting)
        (by simp), Process.leadership_leaderReceive leader]
      simp only [Process.leadership, leader]
      omega
  | followerReceive message reading draw follower accepting =>
      rw [countP_isGrant_sends_eq_zero
        (Process.Moves.followerReceive message reading draw follower
          accepting) (by simp),
        Process.leadership_followerReceive follower]
      simp only [Process.consumed]
      omega

/-- A timeout makes a follower the holder of one new leadership. -/
theorem leadership_moves_of_timerFires
    {process : Process Addr} {event : NodeEvent}
    {result : Process Addr × List Effect}
    (moves : Process.Moves process event result)
    (fires : process.timerFires event = true) :
    result.1.leadership = process.leadership + 1 ∧ result.2 = [] := by
  cases moves with
  | expire follower atTop expired =>
      simp [Process.leadership, Process.resume, follower]
  | listen follower atTop fresh =>
      cases fires.symm.trans fresh
  | elapse | beat | idle | announce | conclude | leaderReceive |
      followerReceive =>
      cases fires

end ProcessStep

/-! ## Counting in a cluster -/

namespace Cluster

variable {Addr : Type u}

/-- Every node has the id and the peers that `members` gives it. -/
def Configured (members : Membership Addr) (cluster : Cluster Addr) :
    Prop :=
  ∀ addr,
    (cluster.processes addr).node.id = members.id addr ∧
      (cluster.processes addr).node.clientEndpoints = members.peers addr

/-- The heartbeat timeout of some follower fires. -/
def timeoutFires (cluster : Cluster Addr) :
    ClusterEvent Addr → Bool
  | .act addr event => (cluster.processes addr).timerFires (.act event)
  | .deliver _ _ _ => false
  | .lose _ => false

/-- Election results in flight to the very node they name. -/
def grants (cluster : Cluster Addr) : Nat :=
  cluster.network.countP
    (Envelope.isGrant fun addr => (cluster.processes addr).node.id)

variable [Fintype Addr]

def leaders (cluster : Cluster Addr) : Finset Addr :=
  Finset.univ.filter fun addr =>
    (cluster.processes addr).node.state = .leader

/-- `DefactoLeader` nodes that have not yet announced a result. -/
def unannounced (cluster : Cluster Addr) : Finset Addr :=
  Finset.univ.filter fun addr =>
    (cluster.processes addr).node.state = .defactoLeader ∧
      (cluster.processes addr).hasAnnounced = false

/-- `DefactoLeader` nodes that have announced themselves and are still
inside `handle_election`. -/
def selfAnnounced (cluster : Cluster Addr) : Finset Addr :=
  Finset.univ.filter fun addr =>
    (cluster.processes addr).node.state = .defactoLeader ∧
      (cluster.processes addr).pc =
        .announced (cluster.processes addr).node.id

/-- Leaders, elections not yet announced, and results on their way to the
node they name. -/
def announcedCount (cluster : Cluster Addr) : Nat :=
  cluster.leaders.card + cluster.unannounced.card + cluster.grants

/-- The leaderships of a cluster: nodes that have announced themselves and
are about to become leader count as well. -/
def leadershipCount (cluster : Cluster Addr) : Nat :=
  cluster.announcedCount + cluster.selfAnnounced.card

/-- The leaderships, process by process. -/
theorem leadershipCount_eq (cluster : Cluster Addr) :
    cluster.leadershipCount =
      (∑ addr, (cluster.processes addr).leadership) + cluster.grants := by
  have split :
      ∀ addr,
        (cluster.processes addr).leadership =
          (if (cluster.processes addr).node.state = .leader then 1
            else 0) +
          (if (cluster.processes addr).node.state = .defactoLeader ∧
              (cluster.processes addr).hasAnnounced = false then 1
            else 0) +
          (if (cluster.processes addr).node.state = .defactoLeader ∧
              (cluster.processes addr).pc =
                .announced (cluster.processes addr).node.id then 1
            else 0) := by
    intro addr
    cases state : (cluster.processes addr).node.state <;>
      cases pc : (cluster.processes addr).pc <;>
        simp [Process.leadership, Process.hasAnnounced, state, pc]
  simp only [leadershipCount, announcedCount, leaders, unannounced,
    selfAnnounced, Finset.card_filter, split, Finset.sum_add_distrib]
  omega

theorem leaders_card_le (cluster : Cluster Addr) :
    cluster.leaders.card ≤ cluster.leadershipCount := by
  unfold leadershipCount announcedCount
  omega

/-- With at most one leadership, any two leaders are the same node. -/
theorem leader_unique
    {cluster : Cluster Addr} (single : cluster.leadershipCount ≤ 1)
    {first second : Addr}
    (firstLeads : (cluster.processes first).node.state = .leader)
    (secondLeads : (cluster.processes second).node.state = .leader) :
    first = second := by
  have few : cluster.leaders.card ≤ 1 :=
    cluster.leaders_card_le.trans single
  apply Finset.card_le_one.mp few
  · exact Finset.mem_filter.mpr ⟨Finset.mem_univ first, firstLeads⟩
  · exact Finset.mem_filter.mpr ⟨Finset.mem_univ second, secondLeads⟩

end Cluster

section ClusterStep

variable {Addr : Type u} {members : Membership Addr}

private theorem moves_keeps_config
    {process : Process Addr} {event : NodeEvent}
    {result : Process Addr × List Effect}
    (moves : Process.Moves process event result) :
    result.1.node.id = process.node.id ∧
      result.1.node.clientEndpoints = process.node.clientEndpoints := by
  cases moves with
  | elapse | beat | expire | listen | idle | announce | conclude =>
      exact ⟨rfl, rfl⟩
  | leaderReceive | followerReceive =>
      simp

/-- In a configured cluster the grants are counted with the configured ids. -/
theorem Cluster.Configured.grants_eq
    {cluster : Cluster Addr} (configured : cluster.Configured members) :
    cluster.grants =
      cluster.network.countP (Envelope.isGrant members.id) := by
  have sameIds :
      (fun addr => (cluster.processes addr).node.id) = members.id :=
    funext fun addr => (configured addr).1
  rw [Cluster.grants, sameIds]

variable [DecidableEq Addr]

theorem configured_initial
    {cluster : Cluster Addr}
    (initial : (clusterSystem members).initial cluster) :
    cluster.Configured members := by
  intro addr
  have coherent := coherent_of_initial (initial.2 addr)
  exact ⟨coherent.id_eq, coherent.peers_eq⟩

theorem configured_of_reachable
    {cluster : Cluster Addr}
    (reachable : (clusterSystem members).Reachable cluster) :
    cluster.Configured members := by
  intro addr
  have coherent := process_coherent reachable addr
  exact ⟨coherent.id_eq, coherent.peers_eq⟩

private theorem configured_commit
    {cluster : Cluster Addr} {addr : Addr} {event : NodeEvent}
    {result : Process Addr × List Effect}
    (configured : cluster.Configured members)
    (moves : Process.Moves (cluster.processes addr) event result)
    (inFlight : List (Envelope Addr)) :
    (cluster.commit addr result inFlight).Configured members := by
  intro other
  by_cases same : other = addr
  · subst same
    rw [Cluster.commit_processes_self, (moves_keeps_config moves).1,
      (moves_keeps_config moves).2]
    exact configured other
  · rw [cluster.commit_processes_of_ne same]
    exact configured other

theorem Cluster.Configured.moves
    {cluster target : Cluster Addr} {event : ClusterEvent Addr}
    (configured : cluster.Configured members)
    (moves : Cluster.Moves cluster event target) :
    target.Configured members := by
  cases moves with
  | act addr inner result moves =>
      exact configured_commit configured moves _
  | deliver index addr message reading draw result found moves =>
      exact configured_commit configured moves _
  | lose index valid =>
      exact configured

variable [Fintype Addr]

/-- The leaderships after a process step, from those of the process. -/
private theorem leadershipCount_commit
    {cluster : Cluster Addr} {addr : Addr} {event : NodeEvent}
    {result : Process Addr × List Effect}
    (configured : cluster.Configured members)
    (moves : Process.Moves (cluster.processes addr) event result)
    (inFlight : List (Envelope Addr)) :
    (cluster.commit addr result inFlight).leadershipCount +
        (cluster.processes addr).leadership =
      (∑ other, (cluster.processes other).leadership) +
        inFlight.countP (Envelope.isGrant members.id) +
        (result.1.leadership +
          (result.1.node.sends result.2).countP
            (Envelope.isGrant members.id)) := by
  have sums :=
    sum_update_add Process.leadership cluster.processes addr result.1
  have grants :=
    (configured_commit configured moves inFlight).grants_eq
  rw [Cluster.leadershipCount_eq, grants]
  change
    (∑ other,
        (Function.update cluster.processes addr result.1
          other).leadership) +
        (inFlight ++ result.1.node.sends result.2).countP
          (Envelope.isGrant members.id) +
        (cluster.processes addr).leadership = _
  rw [List.countP_append]
  omega

/-- The step lemma: without a timeout the leaderships do not grow. -/
theorem leadershipCount_step
    (mesh : members.FullMesh)
    {cluster target : Cluster Addr} {event : ClusterEvent Addr}
    (configured : cluster.Configured members)
    (quiet : cluster.timeoutFires event = false)
    (moves : Cluster.Moves cluster event target) :
    target.leadershipCount ≤ cluster.leadershipCount := by
  have peersOk :
      ∀ addr,
        (cluster.processes addr).node.clientEndpoints.Nodup ∧
          addr ∉ (cluster.processes addr).node.clientEndpoints := by
    intro addr
    rw [(configured addr).2]
    refine ⟨mesh.nodup addr, ?_⟩
    intro self
    exact (mesh.mem_iff addr addr).mp self rfl
  have before := cluster.leadershipCount_eq
  rw [configured.grants_eq] at before
  cases moves with
  | act addr inner result moves =>
      have change :=
        leadership_moves members.id_injective (peersOk addr).1
          (peersOk addr).2 (configured addr).1 moves quiet
      have after :=
        leadershipCount_commit configured moves cluster.network
      simp only [Process.consumed] at change
      omega
  | deliver index addr message reading draw result found moves =>
      have change :=
        leadership_moves members.id_injective (peersOk addr).1
          (peersOk addr).2 (configured addr).1 moves rfl
      have after :=
        leadershipCount_commit configured moves
          (cluster.network.eraseIdx index)
      have removed :=
        countP_eraseIdx_add (Envelope.isGrant members.id) found
      have sameTest :
          Envelope.isGrant members.id ⟨addr, message⟩ =
            (cluster.processes addr).isNamedBy message := by
        cases message <;>
          simp [Envelope.isGrant, Process.isNamedBy, (configured addr).1]
      rw [sameTest] at removed
      simp only [Process.consumed] at change
      omega
  | lose index valid =>
      have removed :=
        countP_eraseIdx_le (Envelope.isGrant members.id)
          cluster.network index
      have relieved :
          Cluster.Configured members
            { cluster with network := cluster.network.eraseIdx index } :=
        configured
      rw [Cluster.leadershipCount_eq, relieved.grants_eq]
      dsimp only
      omega

/-- A timeout adds exactly one leadership. -/
theorem leadershipCount_timeout
    {cluster target : Cluster Addr} {event : ClusterEvent Addr}
    (configured : cluster.Configured members)
    (fires : cluster.timeoutFires event = true)
    (moves : Cluster.Moves cluster event target) :
    target.leadershipCount = cluster.leadershipCount + 1 := by
  have before := cluster.leadershipCount_eq
  rw [configured.grants_eq] at before
  cases moves with
  | act addr inner result moves =>
      obtain ⟨gained, silent⟩ :=
        leadership_moves_of_timerFires moves fires
      have after :=
        leadershipCount_commit configured moves cluster.network
      rw [silent] at after
      simp only [Node.sends, List.countP_nil] at after
      omega
  | deliver | lose =>
      cases fires

/-! ## Conservation and election safety -/

/-- The invariant: at most one leadership, in a configured cluster. -/
structure Cluster.SingleLeadership (members : Membership Addr)
    (cluster : Cluster Addr) : Prop where
  configured : cluster.Configured members
  single : cluster.leadershipCount ≤ 1

theorem singleLeadership_initial
    {cluster : Cluster Addr}
    (initial : (clusterSystem members).initial cluster) :
    cluster.SingleLeadership members where
  configured := configured_initial initial
  single := by
    have none : ∀ addr, (cluster.processes addr).leadership = 0 := by
      intro addr
      obtain ⟨extraSeconds, reading, now, fresh⟩ := initial.2 addr
      rw [fresh]
      rfl
    rw [Cluster.leadershipCount_eq, Cluster.grants, initial.1]
    simp [none]

theorem Cluster.SingleLeadership.step
    (mesh : members.FullMesh)
    {cluster target : Cluster Addr} {event : ClusterEvent Addr}
    (holds : cluster.SingleLeadership members)
    (quiet : cluster.timeoutFires event = false)
    (stepped : (clusterSystem members).step cluster event = some target) :
    target.SingleLeadership members := by
  have moves := Cluster.moves_of_step stepped
  exact
    { configured := holds.configured.moves moves
      single :=
        (leadershipCount_step mesh holds.configured quiet moves).trans
          holds.single }

/-- Along every run without a timeout, leadership is handed over and never
multiplied. -/
theorem leadershipCount_conserved
    (mesh : members.FullMesh) {source target : Cluster Addr}
    (configured : source.Configured members)
    (single : source.leadershipCount ≤ 1)
    (runs :
      (clusterSystem members).RunsWhere
        (fun cluster event => cluster.timeoutFires event = false)
        source target) :
    target.leadershipCount ≤ 1 ∧ target.leaders.card ≤ 1 := by
  have kept : target.SingleLeadership members :=
    runs.preserves
      (fun _ _ _ holds quiet stepped => holds.step mesh quiet stepped)
      ⟨configured, single⟩
  exact ⟨kept.single, target.leaders_card_le.trans kept.single⟩

/-- A timeout fires only when no leadership is left in the cluster. -/
def Cluster.TimesOutAlone (cluster : Cluster Addr)
    (event : ClusterEvent Addr) : Prop :=
  cluster.timeoutFires event = true → cluster.leadershipCount = 0

/-- While timeouts fire only in a cluster without leadership, no two nodes
are ever leader at once. -/
theorem election_safety
    (mesh : members.FullMesh) {cluster : Cluster Addr}
    (reachable :
      (clusterSystem members).ReachableWhere
        Cluster.TimesOutAlone cluster) :
    ∀ first second,
      (cluster.processes first).node.state = .leader →
        (cluster.processes second).node.state = .leader →
          first = second := by
  have step :
      ∀ source event target,
        Cluster.SingleLeadership members source →
          Cluster.TimesOutAlone source event →
            (clusterSystem members).step source event = some target →
              Cluster.SingleLeadership members target := by
    intro source event target holds alone stepped
    cases fires : source.timeoutFires event with
    | false =>
        exact holds.step mesh fires stepped
    | true =>
        have moves := Cluster.moves_of_step stepped
        have counted :=
          leadershipCount_timeout holds.configured fires moves
        rw [alone fires] at counted
        exact
          { configured := holds.configured.moves moves
            single := counted.le }
  have kept : cluster.SingleLeadership members :=
    reachable.invariant (fun _ => singleLeadership_initial) step
  intro first second firstLeads secondLeads
  exact Cluster.leader_unique kept.single firstLeads secondLeads

end ClusterStep

/-! ## A node that times out alone -/

theorem timesOutAlone_of_check
    {Addr : Type u} [Fintype Addr] (cluster : Cluster Addr)
    (event : ClusterEvent Addr)
    (checked :
      (!cluster.timeoutFires event ||
        decide (cluster.leadershipCount = 0)) = true) :
    cluster.TimesOutAlone event := by
  intro fires
  simpa [fires] using checked

/-- Node 1 has announced itself. -/
def loneCandidate : Cluster TrioAddr :=
  ((clusterSystem trio).checkedRun
    (fun cluster event =>
      !cluster.timeoutFires event ||
        decide (cluster.leadershipCount = 0))
    (plainCluster trio)
    (candidacyAt .one (SystemReading.ofLoads 10 10))).get
      (by decide +kernel)

theorem loneCandidate_reachable :
    (clusterSystem trio).ReachableWhere
      Cluster.TimesOutAlone loneCandidate :=
  ⟨plainCluster trio, plainCluster_initial trio,
    TransitionSystem.runsWhere_of_checkedRun timesOutAlone_of_check
      (Option.some_get _).symm⟩

/-- Node 1 is leader. -/
def loneLeader : Cluster TrioAddr :=
  ((clusterSystem trio).step loneCandidate (.act .one .conclude)).get
    (by decide +kernel)

theorem loneLeader_step :
    (clusterSystem trio).step loneCandidate (.act .one .conclude) =
      some loneLeader :=
  (Option.some_get _).symm

theorem election_safety_loneLeader :
    (loneLeader.processes .one).node.state = .leader ∧
      ∀ second, (loneLeader.processes second).node.state = .leader →
        .one = second := by
  have leads : (loneLeader.processes .one).node.state = .leader := by
    decide +kernel
  have reachable :=
    loneCandidate_reachable.concat (fun fires => by cases fires)
      loneLeader_step
  refine ⟨leads, ?_⟩
  intro second secondLeads
  exact election_safety trio_fullMesh reachable .one second leads secondLeads

theorem leadershipCount_conserved_loneLeader :
    loneLeader.leadershipCount ≤ 1 ∧ loneLeader.leaders.card ≤ 1 :=
  leadershipCount_conserved trio_fullMesh
    (configured_of_reachable loneCandidate_reachable.reachable)
    (by decide +kernel)
    ((TransitionSystem.RunsWhere.refl loneCandidate).concat rfl
      loneLeader_step)

/-! ## Two nodes that time out together -/

/-- Both nodes time out and announce themselves; the second becomes leader
first. -/
def rivalCandidacies : List (ClusterEvent TrioAddr) :=
  candidacyAt .one (SystemReading.ofLoads 10 10) ++
    candidacyAt .two (SystemReading.ofLoads 10 10) ++ [.act .two .conclude]

def lateRival : Cluster TrioAddr :=
  ((clusterSystem trio).run (plainCluster trio) rivalCandidacies).get
    (by decide +kernel)

theorem lateRival_reachable : (clusterSystem trio).Reachable lateRival :=
  TransitionSystem.reachable_of_run (plainCluster_initial trio) _

def twoLeaders : Cluster TrioAddr :=
  ((clusterSystem trio).step lateRival (.act .one .conclude)).get
    (by decide +kernel)

theorem lateRival_step :
    (clusterSystem trio).step lateRival (.act .one .conclude) =
      some twoLeaders :=
  (Option.some_get _).symm

theorem election_unsafe_of_rivals :
    ¬ ∀ (Addr : Type) [Fintype Addr] [DecidableEq Addr]
      (members : Membership Addr), members.FullMesh →
        ∀ cluster, (clusterSystem members).Reachable cluster →
          ∀ first second,
            (cluster.processes first).node.state = .leader →
              (cluster.processes second).node.state = .leader →
                first = second := by
  intro safe
  have same :=
    safe TrioAddr trio trio_fullMesh twoLeaders
      (lateRival_reachable.concat lateRival_step) .one .two
      (by decide +kernel) (by decide +kernel)
  cases same

/-- The count without the nodes that have announced themselves is one in
`lateRival`, and two after a step without a timeout. -/
theorem announcedCount_grows :
    (clusterSystem trio).Reachable lateRival ∧
      lateRival.Configured trio ∧
      lateRival.announcedCount ≤ 1 ∧
      (clusterSystem trio).RunsWhere
        (fun cluster event => cluster.timeoutFires event = false)
        lateRival twoLeaders ∧
      ¬ twoLeaders.announcedCount ≤ 1 ∧
      ¬ twoLeaders.leaders.card ≤ 1 := by
  refine
    ⟨lateRival_reachable, configured_of_reachable lateRival_reachable,
      by decide +kernel, ?_, by decide +kernel, by decide +kernel⟩
  exact (TransitionSystem.RunsWhere.refl lateRival).concat rfl lateRival_step

end CloudP2P.Election
