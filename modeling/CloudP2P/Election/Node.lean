import CloudP2P.F64
import CloudP2P.MaxBy
import Mathlib.Data.List.AList

/-!
# The election node

The data of `cloud_leader_election.rs` and the synchronous parts of the
methods of `Node`, in the order of the source.  An `async` method is cut at
its await points; the pieces are put back together in
`CloudP2P.Election.Process`.

What a method does outside the node is returned as a list of effects: a store
to the process-wide `CURRENT_LEADER_ID`, or a message handed to
`broadcast_message`.  What it reads from outside is an argument: the clock,
the readings of `sysinfo`, and the random draws.
-/

universe u

namespace CloudP2P.Election

inductive State where
  | follower
  | leader
  | defactoLeader
  deriving DecidableEq, Repr

inductive VoteReason where
  | highCPULoad
  | highMemoryUsage
  deriving DecidableEq, Repr

structure SystemMetrics where
  cpuLoad : F64
  memoryUsage : F64
  loadAverage : F64
  deriving DecidableEq

/-- `Default for SystemMetrics`. -/
def SystemMetrics.default : SystemMetrics where
  cpuLoad := (50 : ℚ)
  memoryUsage := (60 : ℚ)
  loadAverage := (70 : ℚ)

structure Candidate where
  id : UInt64
  metrics : SystemMetrics
  score : F64
  deriving DecidableEq

inductive NodeMessage where
  | heartbeat (leaderId : UInt64) (metrics : SystemMetrics)
      (candidates : List Candidate)
  | negativeVote (voterId : UInt64) (reason : VoteReason)
      (metrics : SystemMetrics)
  | electionResult (newLeaderId : UInt64)
  | updateMetrics (metrics : SystemMetrics)
  deriving DecidableEq

/-- What `collect_metrics` reads from `sysinfo`. -/
structure SystemReading where
  globalCpuUsage : F64
  totalMemory : Nat
  availableMemory : Nat
  loadAverageOne : F64
  available_le_total : availableMemory ≤ totalMemory

/-- A value of `rand::thread_rng().gen::<f64>()`. -/
abbrev UnitDraw := {draw : ℚ // 0 ≤ draw ∧ draw < 1}

/-- `Duration::from_secs`; durations and instants count nanoseconds. -/
def fromSecs (seconds : Nat) : Nat := seconds * 1000000000

/-- The fields of `Node` that its methods read or write.  `Addr` is the type
of the socket addresses; the endpoint a peer is reached through is identified
with the peer's address. -/
structure Node (Addr : Type u) where
  id : UInt64
  state : State
  metrics : SystemMetrics
  lastHeartbeat : Nat
  heartbeatTimeout : Nat
  negativeVotesReceived : AList fun _ : UInt64 => VoteReason
  candidates : List Candidate
  currentLeaderId : Option UInt64
  clientEndpoints : List Addr

/-- What a method does outside its node. -/
inductive Effect where
  | store (leaderId : UInt64)
  | broadcast (message : NodeMessage)
  deriving DecidableEq

/-! ## Metrics and scores -/

def measureCpuLoad (reading : SystemReading) : F64 :=
  reading.globalCpuUsage

/-- The used share of the memory in percent, without the rounding of the
source; NaN when there is none. -/
def measureMemoryUsage (reading : SystemReading) : F64 :=
  let usedMemory := reading.totalMemory - reading.availableMemory
  ((usedMemory : ℚ) : F64) / ((reading.totalMemory : ℚ) : F64) *
    (100 : ℚ)

def measureLoadAverage (reading : SystemReading) : F64 :=
  reading.loadAverageOne

def collectMetrics (reading : SystemReading) : SystemMetrics where
  cpuLoad := measureCpuLoad reading
  memoryUsage := measureMemoryUsage reading
  loadAverage := measureLoadAverage reading

def cpuWeight : ℚ := 0
def memoryWeight : ℚ := 0
def loadAverageWeight : ℚ := 2

/-- `calculate_score` before the random factor is applied. -/
def baseScore (metrics : SystemMetrics) : F64 :=
  let cpuScore : F64 := ((1 : ℚ) : F64) - metrics.cpuLoad / (100 : ℚ)
  let memoryScore : F64 :=
    ((1 : ℚ) : F64) - metrics.memoryUsage / (100 : ℚ)
  let loadAverageScore : F64 :=
    ((1 : ℚ) : F64) - metrics.loadAverage / (100 : ℚ)
  cpuScore * cpuWeight + memoryScore * memoryWeight +
    loadAverageScore * loadAverageWeight

/-- The random factor of one score, in `[0.98, 1.02)`. -/
def randomFactor (draw : UnitDraw) : ℚ :=
  98 / 100 + draw.1 * (4 / 100)

def calculateScore (draw : UnitDraw) (metrics : SystemMetrics) : F64 :=
  baseScore metrics * randomFactor draw

/-- The comparison of `elect_leader`: it scores both candidates afresh and
takes an incomparable pair as equal. -/
def compareScores (draws : Nat → UnitDraw) (comparison : Nat)
    (left right : Candidate) : Ordering :=
  let leftScore := calculateScore (draws (2 * comparison)) left.metrics
  let rightScore := calculateScore (draws (2 * comparison + 1)) right.metrics
  (leftScore.partialCmp rightScore).getD .eq

def electLeader (draws : Nat → UnitDraw) (candidates : List Candidate) :
    Option UInt64 :=
  (maxBy (compareScores draws) candidates).map Candidate.id

/-- The in-place update of the first candidate with the given id. -/
def setMetrics (candidateId : UInt64) (metrics : SystemMetrics) :
    List Candidate → List Candidate
  | [] => []
  | candidate :: rest =>
      if candidate.id = candidateId then
        { candidate with metrics := metrics } :: rest
      else
        candidate :: setMetrics candidateId metrics rest

/-- The list that `update_candidate` leaves. -/
def updatePool (draw : UnitDraw) (candidateId : UInt64)
    (metrics : SystemMetrics) (candidates : List Candidate) :
    List Candidate :=
  if candidateId ∈ candidates.map Candidate.id then
    setMetrics candidateId metrics candidates
  else
    candidates ++
      [{ id := candidateId, metrics := metrics,
         score := calculateScore draw metrics }]

/-! ## Methods -/

namespace Node

variable {Addr : Type u}

/-- `Node::new`: the timeout is `5 + gen_range(0..20)` seconds. -/
def new (id : UInt64) (peerAddrs : List Addr) (extraSeconds : Fin 20)
    (reading : SystemReading) (now : Nat) : Node Addr :=
  let node : Node Addr :=
    { id := id
      state := .follower
      metrics := SystemMetrics.default
      lastHeartbeat := now
      heartbeatTimeout := fromSecs (5 + extraSeconds)
      negativeVotesReceived := ∅
      candidates := []
      currentLeaderId := none
      clientEndpoints := peerAddrs }
  { node with metrics := collectMetrics reading }

def updateCandidate (node : Node Addr) (draw : UnitDraw)
    (candidateId : UInt64) (metrics : SystemMetrics) : Node Addr :=
  { node with
    candidates := updatePool draw candidateId metrics node.candidates }

def broadcastHeartbeat (node : Node Addr) : List Effect :=
  [.broadcast (.heartbeat node.id node.metrics node.candidates)]

def shouldCastNegativeVote (node : Node Addr)
    (leaderMetrics : SystemMetrics) : Option VoteReason :=
  if node.metrics.cpuLoad.lt leaderMetrics.cpuLoad then
    some .highCPULoad
  else if node.metrics.memoryUsage.lt leaderMetrics.memoryUsage then
    some .highMemoryUsage
  else if node.metrics.loadAverage.lt leaderMetrics.loadAverage then
    some .highMemoryUsage
  else
    none

/-- The leader the vote is cast against only appears in an error text. -/
def sendNegativeVote (node : Node Addr) (reading : SystemReading)
    (_leaderId : UInt64) (reason : VoteReason) : List Effect :=
  [.broadcast (.negativeVote node.id reason (collectMetrics reading))]

/-- The head of the loop of `run_leader`. -/
def leaderBeat (node : Node Addr) (reading : SystemReading) :
    Node Addr × List Effect :=
  let node := { node with metrics := collectMetrics reading }
  (node, node.broadcastHeartbeat)

/-- The `match msg` of `run_leader`. -/
def leaderReceive (node : Node Addr) (draw : UnitDraw) :
    NodeMessage → Node Addr
  | .negativeVote voterId reason metrics =>
      let node :=
        { node with
          negativeVotesReceived :=
            node.negativeVotesReceived.insert voterId reason }
      let node := node.updateCandidate draw voterId metrics
      if 2 ≤ node.negativeVotesReceived.keys.length then
        { node with state := .defactoLeader }
      else
        node
  | .updateMetrics metrics => { node with metrics := metrics }
  | .heartbeat _ _ _ => node
  | .electionResult _ => node

/-- `last_heartbeat.elapsed() > heartbeat_timeout`. -/
def heartbeatExpired (node : Node Addr) (now : Nat) : Bool :=
  decide (node.heartbeatTimeout < now - node.lastHeartbeat)

/-- The `match msg` of `run_follower`. -/
def followerReceive (node : Node Addr) (now : Nat)
    (reading : SystemReading) : NodeMessage → Node Addr × List Effect
  | .heartbeat leaderId leaderMetrics candidates =>
      let node :=
        { node with
          lastHeartbeat := now
          currentLeaderId := some leaderId
          candidates := candidates }
      match node.shouldCastNegativeVote leaderMetrics with
      | some reason =>
          (node,
            .store leaderId ::
              node.sendNegativeVote reading leaderId reason)
      | none => (node, [.store leaderId])
  | .electionResult newLeaderId =>
      if newLeaderId = node.id then
        ({ node with state := .leader }, [.store newLeaderId])
      else
        ({ node with currentLeaderId := some newLeaderId },
          [.store newLeaderId])
  | .negativeVote _ _ _ => (node, [])
  | .updateMetrics _ => (node, [])

/-- `handle_election` up to the await of its broadcast. -/
def announceElection (node : Node Addr) (reading : SystemReading)
    (draw : UnitDraw) (draws : Nat → UnitDraw) :
    Node Addr × Option UInt64 :=
  let selfMetrics := collectMetrics reading
  let node := node.updateCandidate draw node.id selfMetrics
  (node, electLeader draws node.candidates)

/-- `handle_election` after its broadcast. -/
def concludeElection (node : Node Addr) (now : Nat)
    (newLeaderId : UInt64) : Node Addr × List Effect :=
  ({ node with
      state := if newLeaderId = node.id then .leader else .follower
      candidates := []
      negativeVotesReceived := ∅
      lastHeartbeat := now },
    if newLeaderId = node.id then [.store newLeaderId] else [])

/-- `handle_election` as a whole. -/
def handleElection (node : Node Addr) (now : Nat)
    (reading : SystemReading) (draw : UnitDraw)
    (draws : Nat → UnitDraw) : Node Addr × List Effect :=
  match node.announceElection reading draw draws with
  | (node, some newLeaderId) =>
      let (concluded, effects) := node.concludeElection now newLeaderId
      (concluded, .broadcast (.electionResult newLeaderId) :: effects)
  | (node, none) => (node, [])

end Node

/-! ## What the methods preserve -/

section Pool

variable {draw : UnitDraw} {candidateId : UInt64} {metrics : SystemMetrics}

@[simp]
theorem setMetrics_map_id (candidateId : UInt64) (metrics : SystemMetrics)
    (candidates : List Candidate) :
    (setMetrics candidateId metrics candidates).map Candidate.id =
      candidates.map Candidate.id := by
  induction candidates with
  | nil =>
      rfl
  | cons candidate rest inductionHypothesis =>
      by_cases found : candidate.id = candidateId
      · simp [setMetrics, found]
      · simp [setMetrics, found, inductionHypothesis]

/-- An update inserts its id and no other. -/
theorem mem_map_id_updatePool_iff
    {candidates : List Candidate} {tested : UInt64} :
    tested ∈ (updatePool draw candidateId metrics candidates).map
        Candidate.id ↔
      tested = candidateId ∨ tested ∈ candidates.map Candidate.id := by
  unfold updatePool
  split
  · rename_i present
    rw [setMetrics_map_id]
    constructor
    · exact Or.inr
    · rintro (rfl | member)
      · exact present
      · exact member
  · rw [List.map_append, List.mem_append, List.map_singleton,
      List.mem_singleton, or_comm]

theorem updatePool_ne_nil (draw : UnitDraw) (candidateId : UInt64)
    (metrics : SystemMetrics) (candidates : List Candidate) :
    updatePool draw candidateId metrics candidates ≠ [] := by
  intro empty
  have member :
      candidateId ∈
        (updatePool draw candidateId metrics candidates).map
          Candidate.id :=
    mem_map_id_updatePool_iff.mpr (Or.inl rfl)
  rw [empty] at member
  exact List.not_mem_nil member

theorem updatePool_nodup
    {candidates : List Candidate}
    (nodup : (candidates.map Candidate.id).Nodup) :
    ((updatePool draw candidateId metrics candidates).map
      Candidate.id).Nodup := by
  unfold updatePool
  split
  · rw [setMetrics_map_id]
    exact nodup
  · rename_i absent
    rw [List.map_append, List.map_singleton]
    exact nodup.append (List.nodup_singleton candidateId) (by
      simpa using absent)

/-- The winner is one of the candidates. -/
theorem electLeader_mem
    {draws : Nat → UnitDraw} {candidates : List Candidate}
    {newLeaderId : UInt64}
    (elected : electLeader draws candidates = some newLeaderId) :
    newLeaderId ∈ candidates.map Candidate.id := by
  obtain ⟨selected, found, same⟩ := Option.map_eq_some_iff.mp elected
  rw [← same]
  exact List.mem_map_of_mem (maxBy_mem found)

theorem electLeader_isSome
    (draws : Nat → UnitDraw) {candidates : List Candidate}
    (nonempty : candidates ≠ []) :
    ∃ newLeaderId, electLeader draws candidates = some newLeaderId := by
  obtain ⟨selected, found⟩ := maxBy_isSome (compareScores draws) nonempty
  exact ⟨selected.id, by rw [electLeader, found, Option.map_some]⟩

end Pool

namespace Node

variable {Addr : Type u}

/-- The pool of an election holds at least the elector, so it has a winner. -/
theorem announceElection_elects
    (node : Node Addr) (reading : SystemReading) (draw : UnitDraw)
    (draws : Nat → UnitDraw) :
    ∃ newLeaderId,
      electLeader draws
          (updatePool draw node.id (collectMetrics reading)
            node.candidates) = some newLeaderId ∧
        node.announceElection reading draw draws =
          (node.updateCandidate draw node.id (collectMetrics reading),
            some newLeaderId) := by
  obtain ⟨newLeaderId, elected⟩ :=
    electLeader_isSome draws
      (updatePool_ne_nil draw node.id (collectMetrics reading)
        node.candidates)
  refine ⟨newLeaderId, elected, ?_⟩
  rw [← elected]
  rfl

section Receive

variable (node : Node Addr) (draw : UnitDraw) (now : Nat)
variable (reading : SystemReading) (message : NodeMessage)

/-- A vote is counted, its metrics enter the pool, and the second voter ends
the term. -/
theorem leaderReceive_negativeVote
    (voterId : UInt64) (reason : VoteReason) (metrics : SystemMetrics) :
    node.leaderReceive draw (.negativeVote voterId reason metrics) =
      { node with
        negativeVotesReceived :=
          node.negativeVotesReceived.insert voterId reason
        candidates := updatePool draw voterId metrics node.candidates
        state :=
          if 2 ≤ (node.negativeVotesReceived.insert
              voterId reason).keys.length then
            .defactoLeader
          else
            node.state } := by
  change
    (if 2 ≤ (node.negativeVotesReceived.insert
        voterId reason).keys.length then _ else _) = _
  by_cases ended :
      2 ≤ (node.negativeVotesReceived.insert voterId reason).keys.length
  · rw [if_pos ended, if_pos ended]
    rfl
  · rw [if_neg ended, if_neg ended]
    rfl

/-- A heartbeat is adopted whole, whether or not it provokes a vote. -/
theorem followerReceive_heartbeat
    (leaderId : UInt64) (metrics : SystemMetrics)
    (candidates : List Candidate) :
    (node.followerReceive now reading
        (.heartbeat leaderId metrics candidates)).1 =
      { node with
        lastHeartbeat := now
        currentLeaderId := some leaderId
        candidates := candidates } := by
  simp only [followerReceive]
  split <;> rfl

theorem followerReceive_electionResult (newLeaderId : UInt64) :
    (node.followerReceive now reading
        (.electionResult newLeaderId)).1 =
      if newLeaderId = node.id then { node with state := .leader }
      else { node with currentLeaderId := some newLeaderId } := by
  simp only [followerReceive]
  split <;> rfl

/-- No message makes a follower of a leader. -/
theorem leaderReceive_state_ne_follower (leader : node.state = .leader) :
    (node.leaderReceive draw message).state ≠ .follower := by
  intro follower
  cases message with
  | negativeVote voterId reason metrics =>
      rw [leaderReceive_negativeVote] at follower
      dsimp only at follower
      split at follower
      · cases follower
      · rw [leader] at follower
        cases follower
  | heartbeat | electionResult | updateMetrics =>
      cases leader.symm.trans follower

@[simp]
theorem leaderReceive_id :
    (node.leaderReceive draw message).id = node.id := by
  cases message with
  | negativeVote voterId reason metrics =>
      rw [leaderReceive_negativeVote]
  | heartbeat | electionResult | updateMetrics =>
      rfl

@[simp]
theorem leaderReceive_clientEndpoints :
    (node.leaderReceive draw message).clientEndpoints =
      node.clientEndpoints := by
  cases message with
  | negativeVote voterId reason metrics =>
      rw [leaderReceive_negativeVote]
  | heartbeat | electionResult | updateMetrics =>
      rfl

@[simp]
theorem leaderReceive_currentLeaderId :
    (node.leaderReceive draw message).currentLeaderId =
      node.currentLeaderId := by
  cases message with
  | negativeVote voterId reason metrics =>
      rw [leaderReceive_negativeVote]
  | heartbeat | electionResult | updateMetrics =>
      rfl

@[simp]
theorem followerReceive_id :
    (node.followerReceive now reading message).1.id = node.id := by
  cases message with
  | heartbeat leaderId metrics candidates =>
      rw [followerReceive_heartbeat]
  | electionResult newLeaderId =>
      rw [followerReceive_electionResult]
      split <;> rfl
  | negativeVote | updateMetrics =>
      rfl

@[simp]
theorem followerReceive_clientEndpoints :
    (node.followerReceive now reading message).1.clientEndpoints =
      node.clientEndpoints := by
  cases message with
  | heartbeat leaderId metrics candidates =>
      rw [followerReceive_heartbeat]
  | electionResult newLeaderId =>
      rw [followerReceive_electionResult]
      split <;> rfl
  | negativeVote | updateMetrics =>
      rfl

@[simp]
theorem followerReceive_negativeVotesReceived :
    (node.followerReceive now reading
        message).1.negativeVotesReceived =
      node.negativeVotesReceived := by
  cases message with
  | heartbeat leaderId metrics candidates =>
      rw [followerReceive_heartbeat]
  | electionResult newLeaderId =>
      rw [followerReceive_electionResult]
      split <;> rfl
  | negativeVote | updateMetrics =>
      rfl

end Receive

end Node

end CloudP2P.Election
