import CloudP2P.Election.Term

/-!
# The metrics that a vote carries

A follower decides about its vote by the metrics it has stored and sends the
metrics it measures then.  It stored them when it was started or when it was
last a leader.  A lower load average is reported as a lower memory usage.
-/

universe u

namespace CloudP2P.Election

/-- The metric that a reason names. -/
def VoteReason.metric (metrics : SystemMetrics) : VoteReason → F64
  | .highCPULoad => metrics.cpuLoad
  | .highMemoryUsage => metrics.memoryUsage

/-- A vote carries a lower value of the metric it names than the leader
has. -/
def NodeMessage.justified (leaderMetrics : SystemMetrics) :
    NodeMessage → Bool
  | .negativeVote _ reason metrics =>
      (reason.metric metrics).lt (reason.metric leaderMetrics)
  | .heartbeat _ _ _ => true
  | .electionResult _ => true
  | .updateMetrics _ => true

/-- Whatever the stored metrics are lower in first, the measured ones are
lower in as well, where load average stands for memory usage. -/
structure SystemMetrics.Confirms
    (measured stored leaderMetrics : SystemMetrics) : Prop where
  cpuLoad :
    stored.cpuLoad.lt leaderMetrics.cpuLoad = true →
      measured.cpuLoad.lt leaderMetrics.cpuLoad = true
  memoryUsage :
    stored.cpuLoad.lt leaderMetrics.cpuLoad = false →
      (stored.memoryUsage.lt leaderMetrics.memoryUsage ||
        stored.loadAverage.lt leaderMetrics.loadAverage) = true →
        measured.memoryUsage.lt leaderMetrics.memoryUsage = true

section Vote

variable {Addr : Type u}

/-- Every vote on a heartbeat with `leaderMetrics` is justified. -/
def Process.VotesJustified (process : Process Addr)
    (leaderMetrics : SystemMetrics) (reading : SystemReading) : Prop :=
  ∀ leaderId candidates draw result,
    process.step
        (.receive (.heartbeat leaderId leaderMetrics candidates) reading
          draw) = some result →
      ∀ message, Effect.broadcast message ∈ result.2 →
        message.justified leaderMetrics = true

/-- The reason of a vote; the last two comparisons give the same one. -/
theorem shouldCastNegativeVote_eq
    (node : Node Addr) (leaderMetrics : SystemMetrics) :
    node.shouldCastNegativeVote leaderMetrics =
      if node.metrics.cpuLoad.lt leaderMetrics.cpuLoad then
        some .highCPULoad
      else if
        (node.metrics.memoryUsage.lt leaderMetrics.memoryUsage ||
          node.metrics.loadAverage.lt leaderMetrics.loadAverage) then
        some .highMemoryUsage
      else
        none := by
  unfold Node.shouldCastNegativeVote
  cases node.metrics.memoryUsage.lt leaderMetrics.memoryUsage with
  | true | false =>
      rfl

/-- The one message that a heartbeat may provoke. -/
theorem broadcast_mem_followerReceive_iff
    (node : Node Addr) (now : Nat) (reading : SystemReading)
    (leaderId : UInt64) (leaderMetrics : SystemMetrics)
    (candidates : List Candidate) (message : NodeMessage) :
    Effect.broadcast message ∈
        (node.followerReceive now reading
          (.heartbeat leaderId leaderMetrics candidates)).2 ↔
      ∃ reason,
        node.shouldCastNegativeVote leaderMetrics = some reason ∧
          message =
            .negativeVote node.id reason (collectMetrics reading) := by
  -- the fields that the heartbeat sets are not compared
  have sameVote :
      ({ node with
          lastHeartbeat := now
          currentLeaderId := some leaderId
          candidates := candidates } : Node Addr).shouldCastNegativeVote
            leaderMetrics =
        node.shouldCastNegativeVote leaderMetrics := rfl
  simp only [Node.followerReceive, sameVote]
  cases node.shouldCastNegativeVote leaderMetrics with
  | none | some reason =>
      simp [Node.sendNegativeVote]

/-- A follower's votes on a heartbeat are justified if and only if what it
measures confirms what it has stored. -/
theorem votesJustified_iff
    {process : Process Addr}
    (follower : process.node.state = .follower)
    (accepting : process.pc = .accept)
    (leaderMetrics : SystemMetrics) (reading : SystemReading) :
    process.VotesJustified leaderMetrics reading ↔
      (collectMetrics reading).Confirms process.node.metrics
        leaderMetrics := by
  have stepped :
      ∀ leaderId candidates draw,
        process.step
            (.receive (.heartbeat leaderId leaderMetrics candidates)
              reading draw) =
          some
            (process.resume
              (process.node.followerReceive process.now reading
                (.heartbeat leaderId leaderMetrics candidates)).1 .top
              (process.node.followerReceive process.now reading
                (.heartbeat leaderId leaderMetrics candidates)).2) := by
    intro leaderId candidates draw
    simp only [Process.step, Process.receive, follower, accepting]
  have votes :
      process.VotesJustified leaderMetrics reading ↔
        ∀ reason,
          process.node.shouldCastNegativeVote leaderMetrics =
              some reason →
            (reason.metric (collectMetrics reading)).lt
              (reason.metric leaderMetrics) = true := by
    constructor
    · intro justified reason cast
      exact
        justified 0 [] UnitDraw.zero _ (stepped 0 [] UnitDraw.zero) _
          ((broadcast_mem_followerReceive_iff _ _ _ _ _ _ _).mpr
            ⟨reason, cast, rfl⟩)
    · intro lower leaderId candidates draw result moved message sent
      cases (stepped leaderId candidates draw).symm.trans moved
      obtain ⟨reason, cast, same⟩ :=
        (broadcast_mem_followerReceive_iff _ _ _ _ _ _ _).mp sent
      rw [same]
      exact lower reason cast
  rw [votes, shouldCastNegativeVote_eq]
  cases cpu : process.node.metrics.cpuLoad.lt leaderMetrics.cpuLoad with
  | true =>
      constructor
      · intro lower
        exact
          { cpuLoad := fun _ => lower .highCPULoad rfl
            memoryUsage := fun higher => by
              rw [cpu] at higher
              cases higher }
      · intro confirms reason cast
        cases cast
        exact confirms.cpuLoad cpu
  | false =>
      constructor
      · intro lower
        refine
          { cpuLoad := fun less => by
              rw [cpu] at less
              cases less
            memoryUsage := fun _ less => ?_ }
        refine lower .highMemoryUsage ?_
        rw [if_neg Bool.false_ne_true, if_pos less]
      · intro confirms reason cast
        rw [if_neg Bool.false_ne_true] at cast
        split at cast
        · rename_i less
          cases cast
          exact confirms.memoryUsage cpu less
        · cases cast

/-! ## The age of the stored metrics -/

/-- Only a leader measures, or is told, new metrics. -/
theorem Process.Moves.metrics
    {process : Process Addr} {event : NodeEvent}
    {result : Process Addr × List Effect}
    (moves : Process.Moves process event result)
    (notLeader : process.node.state ≠ .leader) :
    result.1.node.metrics = process.node.metrics := by
  cases moves with
  | elapse | expire | listen | idle | announce | conclude =>
      rfl
  | beat _ leader | leaderReceive _ _ _ leader =>
      exact False.elim (notLeader leader)
  | followerReceive message =>
      cases message with
      | heartbeat leaderId metrics candidates =>
          rw [Process.resume_node, Node.followerReceive_heartbeat]
      | electionResult newLeaderId =>
          rw [Process.resume_node, Node.followerReceive_electionResult]
          split <;> rfl
      | negativeVote | updateMetrics =>
          rfl

/-- As long as a node does not lead, it votes by the same metrics, whatever
it could measure. -/
theorem metrics_of_run
    {id : UInt64} {peerAddrs : List Addr} {source target : Process Addr}
    (runs :
      (processSystem id peerAddrs).RunsWhere
        (fun process _ => process.node.state ≠ .leader) source target) :
    target.node.metrics = source.node.metrics := by
  have step :
      ∀ (process : Process Addr) event next,
        process.node.metrics = source.node.metrics →
          process.node.state ≠ .leader →
            (processSystem id peerAddrs).step process event = some next →
              next.node.metrics = source.node.metrics := by
    intro process event next same notLeader stepped
    obtain ⟨effects, moves⟩ := processSystem_step_eq_some stepped
    exact (moves.metrics notLeader).trans same
  exact runs.preserves step rfl

end Vote

/-! ## Two votes without justification -/

/-- Process 1 waits for its first message. -/
def listening : Process Nat :=
  ((processSystem 1 [2, 3]).run (Process.plainStart 1 [2, 3])
    [.act .checkTimer]).get (by decide +kernel)

theorem listening_reachable :
    (processSystem 1 [2, 3]).Reachable listening :=
  TransitionSystem.reachable_of_run (plainStart_initial 1 [2, 3]) _

theorem listening_state :
    listening.node.state = .follower ∧ listening.pc = .accept := by
  decide +kernel

theorem votesJustified_iff_listening :
    listening.VotesJustified (collectMetrics (SystemReading.ofLoads 50 50))
        (SystemReading.ofLoads 10 10) ↔
      (collectMetrics (SystemReading.ofLoads 10 10)).Confirms
        listening.node.metrics
        (collectMetrics (SystemReading.ofLoads 50 50)) :=
  votesJustified_iff listening_state.1 listening_state.2 _ _

/-- A CPU load that has risen since the start is reported as a lower one;
and without any change, a lower load average is reported as a memory usage
that is not lower. -/
theorem listening_votes_unjustified :
    (¬ ∀ (id : UInt64) (peerAddrs : List Nat) (process : Process Nat),
      (processSystem id peerAddrs).Reachable process →
        ∀ leaderMetrics reading,
          process.VotesJustified leaderMetrics reading) ∧
      ¬ ∀ (id : UInt64) (peerAddrs : List Nat) (process : Process Nat),
        (processSystem id peerAddrs).Reachable process →
          ∀ leaderMetrics reading,
            collectMetrics reading = process.node.metrics →
              process.VotesJustified leaderMetrics reading := by
  constructor
  · intro justified
    have vote :=
      justified 1 [2, 3] listening listening_reachable
        (collectMetrics (SystemReading.ofLoads 50 50))
        (SystemReading.ofLoads 90 90) 2 [] UnitDraw.zero _
        (Option.some_get (by decide +kernel)).symm
        (.negativeVote 1 .highCPULoad
          (collectMetrics (SystemReading.ofLoads 90 90)))
        (by decide +kernel)
    exact absurd vote (by decide +kernel)
  · intro justified
    have vote :=
      justified 1 [2, 3] listening listening_reachable
        (collectMetrics (SystemReading.ofLoads 10 50))
        (SystemReading.ofLoads 10 10) (by decide +kernel) 2 []
        UnitDraw.zero _ (Option.some_get (by decide +kernel)).symm
        (.negativeVote 1 .highMemoryUsage
          (collectMetrics (SystemReading.ofLoads 10 10)))
        (by decide +kernel)
    exact absurd vote (by decide +kernel)

end CloudP2P.Election
