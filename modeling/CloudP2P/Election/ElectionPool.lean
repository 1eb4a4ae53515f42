import CloudP2P.Election.Term

/-!
# The pool of a leader

The votes that a leader receives fill `negative_votes_received` and
`candidates` together, and `handle_election` clears them together.  The
heartbeats of another leader fill `candidates` alone, and the `ElectionResult`
arm of `run_follower` leaves it as it is.
-/

universe u

namespace CloudP2P.Election

namespace Process

variable {Addr : Type u}

/-- The pool of a leader holds exactly the voters of its term. -/
def PoolMatchesVotes (process : Process Addr) : Prop :=
  process.node.state = .leader →
    ∀ id,
      id ∈ process.node.candidates.map Candidate.id ↔
        id ∈ process.node.negativeVotesReceived

/-- A follower named by an `ElectionResult` holds no candidates. -/
def KeepsPool (process : Process Addr) : NodeEvent → Prop
  | .receive (.electionResult newLeaderId) _ _ =>
      process.node.state = .follower →
        newLeaderId = process.node.id → process.node.candidates = []
  | .receive (.heartbeat _ _ _) _ _ => True
  | .receive (.negativeVote _ _ _) _ _ => True
  | .receive (.updateMetrics _) _ _ => True
  | .act _ => True

private theorem PoolMatchesVotes.leaderReceive
    {process : Process Addr} (pool : PoolMatchesVotes process)
    (leader : process.node.state = .leader) (draw : UnitDraw)
    (message : NodeMessage) :
    PoolMatchesVotes
      (process.resume (process.node.leaderReceive draw message)
        .top []).1 := by
  intro _ id
  cases message with
  | negativeVote voterId reason metrics =>
      rw [resume_node, Node.leaderReceive_negativeVote]
      dsimp only
      rw [mem_map_id_updatePool_iff, AList.mem_insert, pool leader id]
  | heartbeat | electionResult | updateMetrics =>
      exact pool leader id

private theorem Coherent.pool_followerReceive
    {id : UInt64} {peerAddrs : List Addr} {process : Process Addr}
    (coherent : Coherent id peerAddrs process)
    (follower : process.node.state = .follower)
    (reading : SystemReading) (draw : UnitDraw) (message : NodeMessage)
    (keeps : KeepsPool process (.receive message reading draw)) :
    PoolMatchesVotes
      (process.resume
        (process.node.followerReceive process.now reading message).1 .top
        (process.node.followerReceive process.now reading
          message).2).1 := by
  have noVotes := coherent.follower_votes follower
  intro leader
  rw [resume_node] at leader ⊢
  cases message with
  | heartbeat =>
      rw [Node.followerReceive_heartbeat, follower] at leader
      cases leader
  | electionResult newLeaderId =>
      by_cases named : newLeaderId = process.node.id
      · have empty := keeps follower named
        simp [Node.followerReceive, named, empty, noVotes]
      · simp [Node.followerReceive, named, follower] at leader
  | negativeVote | updateMetrics =>
      simp [Node.followerReceive, follower] at leader

/-- One step that keeps the pool keeps it in step with the votes. -/
theorem PoolMatchesVotes.moves
    {id : UInt64} {peerAddrs : List Addr} {process : Process Addr}
    {event : NodeEvent} {result : Process Addr × List Effect}
    (pool : PoolMatchesVotes process)
    (coherent : Coherent id peerAddrs process)
    (keeps : KeepsPool process event)
    (moves : Moves process event result) :
    PoolMatchesVotes result.1 := by
  cases moves with
  | elapse | beat | listen | idle =>
      exact pool
  | expire =>
      intro leader
      cases leader
  | announce _ _ _ _ defacto =>
      intro leader
      change process.node.state = .leader at leader
      rw [defacto] at leader
      cases leader
  | conclude =>
      intro _ tested
      simp [Node.concludeElection]
  | leaderReceive message reading draw leader =>
      exact pool.leaderReceive leader draw message
  | followerReceive message reading draw follower =>
      exact
        coherent.pool_followerReceive follower reading draw message keeps

/-- An `ElectionResult` that makes a leader of a follower with candidates
leaves a pool without votes. -/
theorem Coherent.inheritsPool
    {id : UInt64} {peerAddrs : List Addr} {process : Process Addr}
    {event : NodeEvent} {result : Process Addr × List Effect}
    (coherent : Coherent id peerAddrs process)
    (breaks : ¬ KeepsPool process event)
    (moves : Moves process event result) :
    ¬ PoolMatchesVotes result.1 := by
  cases moves with
  | elapse | beat | expire | listen | idle | announce | conclude =>
      exact False.elim (breaks trivial)
  | leaderReceive message reading draw leader =>
      cases message with
      | electionResult =>
          refine False.elim (breaks ?_)
          intro follower
          rw [leader] at follower
          cases follower
      | heartbeat | negativeVote | updateMetrics =>
          exact False.elim (breaks trivial)
  | followerReceive message reading draw follower =>
      cases message with
      | heartbeat | negativeVote | updateMetrics =>
          exact False.elim (breaks trivial)
      | electionResult newLeaderId =>
          intro pool
          apply breaks
          intro _ named
          have noVotes := coherent.follower_votes follower
          rw [PoolMatchesVotes, resume_node,
            Node.followerReceive_electionResult, if_pos named] at pool
          have noneListed :
              ∀ listed, listed ∉ process.node.candidates.map Candidate.id := by
            intro listed member
            have voted := (pool rfl listed).mp member
            rw [noVotes] at voted
            exact AList.notMem_empty listed voted
          exact
            List.map_eq_nil_iff.mp
              (List.eq_nil_iff_forall_not_mem.mpr noneListed)

end Process

section Pool

variable {Addr : Type u} {id : UInt64} {peerAddrs : List Addr}

/-- A leader's pool holds exactly the voters of its term throughout a run if
and only if no follower with candidates is named by an `ElectionResult`. -/
theorem poolMatchesVotes_along_iff
    {source : Process Addr} {events : List NodeEvent}
    (initial : (processSystem id peerAddrs).initial source)
    (replay :
      ((processSystem id peerAddrs).run source events).isSome) :
    (processSystem id peerAddrs).HoldsAlong
        Process.PoolMatchesVotes source events ↔
      (processSystem id peerAddrs).MeetsAlong
        Process.KeepsPool source events := by
  have starts :
      source.PoolMatchesVotes ∧
        Process.Coherent id peerAddrs source := by
    refine ⟨?_, coherent_of_initial initial⟩
    obtain ⟨extraSeconds, reading, now, rfl⟩ := initial
    intro leader
    cases leader
  have keeps :
      ∀ (process : Process Addr) event target,
        process.PoolMatchesVotes ∧ Process.Coherent id peerAddrs process →
          process.KeepsPool event →
            (processSystem id peerAddrs).step process event =
                some target →
              target.PoolMatchesVotes ∧
                Process.Coherent id peerAddrs target := by
    rintro process event target ⟨pool, coherent⟩ admitted stepped
    obtain ⟨effects, moves⟩ := processSystem_step_eq_some stepped
    exact ⟨pool.moves coherent admitted moves, coherent.moves moves⟩
  refine
    TransitionSystem.holdsAlong_iff_meetsAlong replay starts
      (fun _ holds => holds.1) keeps ?_
  intro process event target runs _ breaks stepped
  have coherent : Process.Coherent id peerAddrs process :=
    coherent_of_runsWhere starts.2 runs
  obtain ⟨effects, moves⟩ := processSystem_step_eq_some stepped
  exact coherent.inheritsPool breaks moves

end Pool

/-! ## A leader with candidates of the term before -/

/-- Process 1 hears a heartbeat of leader 2 with the candidates it is
given. -/
def hearLeader (candidates : List Candidate) : List NodeEvent :=
  [.act .checkTimer,
   .receive
     (.heartbeat 2 (collectMetrics (SystemReading.ofLoads 10 10))
       candidates)
     (SystemReading.ofLoads 10 10) UnitDraw.zero]

/-- Leader 2 hands its leadership over to process 1. -/
def handover : List NodeEvent :=
  [.act .checkTimer,
   .receive (.electionResult 1) (SystemReading.ofLoads 10 10)
     UnitDraw.zero]

/-- The entry of a node that has voted against leader 2. -/
def voterEntry (voterId : UInt64) : Candidate where
  id := voterId
  metrics := collectMetrics (SystemReading.ofLoads 10 10)
  score :=
    calculateScore UnitDraw.zero
      (collectMetrics (SystemReading.ofLoads 10 10))

theorem poolMatchesVotes_along_handover :
    (processSystem 1 [2, 3]).HoldsAlong Process.PoolMatchesVotes
        (Process.plainStart 1 [2, 3]) (hearLeader [] ++ handover) ↔
      (processSystem 1 [2, 3]).MeetsAlong Process.KeepsPool
        (Process.plainStart 1 [2, 3]) (hearLeader [] ++ handover) :=
  poolMatchesVotes_along_iff (plainStart_initial 1 [2, 3])
    (by decide +kernel)

/-- Process 1 after it has taken over with the vote of process 3 against
leader 2 in its pool. -/
def heirLeader : Process Nat :=
  ((processSystem 1 [2, 3]).run (Process.plainStart 1 [2, 3])
    (hearLeader [voterEntry 3] ++ handover)).get (by decide +kernel)

theorem pool_inherited_by_heirLeader :
    ¬ ∀ (id : UInt64) (peerAddrs : List Nat) (process : Process Nat),
      (processSystem id peerAddrs).Reachable process →
        process.PoolMatchesVotes := by
  intro follows
  have reachable : (processSystem 1 [2, 3]).Reachable heirLeader :=
    TransitionSystem.reachable_of_run (plainStart_initial 1 [2, 3]) _
  have leader : heirLeader.node.state = .leader := by decide +kernel
  have listed : 3 ∈ heirLeader.node.candidates.map Candidate.id := by
    decide +kernel
  have noVotes : heirLeader.node.negativeVotesReceived.keys = [] := by
    decide +kernel
  have voted := (follows 1 [2, 3] heirLeader reachable leader 3).mp listed
  rw [AList.mem_keys, noVotes] at voted
  exact List.not_mem_nil voted

end CloudP2P.Election
