import CloudP2P.Election.Term

/-!
# The service gate

`main.rs` serves clients while `CURRENT_LEADER_ID` equals the id of its own
node.  The static and `Node.state` are written in different branches; this
module determines the steps after which the gate is open on a process that
is not leader.
-/

universe u

namespace CloudP2P.Election

namespace Process

variable {Addr : Type u}

/-- Not inside `handle_election`. -/
def BetweenEvents (process : Process Addr) : Prop :=
  ∀ newLeaderId, process.pc ≠ .announced newLeaderId

/-- The gate is open only on a leader. -/
def GateFollowsState (process : Process Addr) : Prop :=
  process.sharedLeaderId = process.node.id →
    process.node.state = .leader

/-- Neither the vote of a second voter, which makes a leader step down, nor
a heartbeat that names its own receiver. -/
def KeepsGate (process : Process Addr) : NodeEvent → Prop
  | .receive (.negativeVote voterId _ _) _ _ =>
      process.node.state = .leader →
        ∀ earlier ∈ process.node.negativeVotesReceived,
          earlier = voterId
  | .receive (.heartbeat leaderId _ _) _ _ =>
      process.node.state = .follower → leaderId ≠ process.node.id
  | .receive (.electionResult _) _ _ => True
  | .receive (.updateMetrics _) _ _ => True
  | .act _ => True

private theorem leader_of_singleVoter
    {process : Process Addr} {voterId : UInt64} (reason : VoteReason)
    (single :
      ∀ earlier ∈ process.node.negativeVotesReceived,
        earlier = voterId) :
    (process.node.negativeVotesReceived.insert
      voterId reason).keys.length < 2 := by
  rw [AList.keys_insert, List.length_cons]
  have noOther :
      process.node.negativeVotesReceived.keys.erase voterId = [] := by
    apply List.eq_nil_iff_forall_not_mem.mpr
    intro other member
    have kept :=
      (process.node.negativeVotesReceived.keys_nodup.mem_erase_iff).mp
        member
    exact kept.1 (single other (AList.mem_keys.mpr kept.2))
  rw [noOther]
  decide

private theorem two_of_otherVoter
    {process : Process Addr} {voterId earlier : UInt64}
    (reason : VoteReason)
    (member : earlier ∈ process.node.negativeVotesReceived)
    (different : earlier ≠ voterId) :
    2 ≤ (process.node.negativeVotesReceived.insert
      voterId reason).keys.length := by
  rw [AList.keys_insert, List.length_cons]
  have kept :
      earlier ∈ process.node.negativeVotesReceived.keys.erase voterId :=
    (List.mem_erase_of_ne different).mpr (AList.mem_keys.mp member)
  have positive := List.length_pos_of_mem kept
  omega

/-- One step that keeps the gate keeps it in step with the state. -/
theorem GateFollowsState.moves
    {process : Process Addr} {event : NodeEvent}
    {result : Process Addr × List Effect}
    (follows : GateFollowsState process)
    (keeps : KeepsGate process event)
    (moves : Moves process event result) :
    GateFollowsState result.1 := by
  cases moves with
  | elapse | beat | listen | idle | announce =>
      exact follows
  | expire follower =>
      intro opened
      have leader := follows opened
      rw [follower] at leader
      cases leader
  | conclude newLeaderId defacto =>
      intro opened
      by_cases won : newLeaderId = process.node.id
      · simp [Node.concludeElection, won]
      · have leader : process.node.state = .leader := follows (by
          simpa [Node.concludeElection, won, applyStores] using opened)
        rw [defacto] at leader
        cases leader
  | leaderReceive message reading draw leader =>
      intro _
      cases message with
      | negativeVote voterId reason metrics =>
          have few := leader_of_singleVoter reason (keeps leader)
          rw [resume_node, Node.leaderReceive_negativeVote]
          exact (if_neg (Nat.not_le.mpr few)).trans leader
      | heartbeat | electionResult | updateMetrics =>
          exact leader
  | followerReceive message reading draw follower =>
      intro opened
      rw [resume_sharedLeaderId, applyStores_followerReceive, resume_node,
        Node.followerReceive_id] at opened
      cases message with
      | heartbeat leaderId metrics candidates =>
          exact False.elim (keeps follower opened)
      | electionResult newLeaderId =>
          have named : newLeaderId = process.node.id := opened
          rw [resume_node, Node.followerReceive_electionResult,
            if_pos named]
      | negativeVote | updateMetrics =>
          exact follows opened

/-- A step that does not keep the gate leaves it open on a process that is
not leader. -/
theorem Coherent.opens
    {id : UInt64} {peerAddrs : List Addr} {process : Process Addr}
    {event : NodeEvent} {result : Process Addr × List Effect}
    (coherent : Coherent id peerAddrs process)
    (breaks : ¬ KeepsGate process event)
    (moves : Moves process event result) :
    BetweenEvents result.1 ∧ ¬ GateFollowsState result.1 := by
  cases moves with
  | elapse | beat | expire | listen | idle | announce | conclude =>
      exact False.elim (breaks trivial)
  | leaderReceive message reading draw leader =>
      refine ⟨by simp [BetweenEvents], ?_⟩
      cases message with
      | heartbeat =>
          refine False.elim (breaks ?_)
          intro follower
          rw [leader] at follower
          cases follower
      | electionResult | updateMetrics =>
          exact False.elim (breaks trivial)
      | negativeVote voterId reason metrics =>
          intro follows
          apply breaks
          intro _ earlier member
          by_contra different
          have ended := two_of_otherVoter reason member different
          have opened :
              process.sharedLeaderId =
                (process.node.leaderReceive draw
                  (.negativeVote voterId reason metrics)).id := by
            rw [Node.leaderReceive_id, coherent.leader_shared leader,
              coherent.id_eq]
          have still := follows opened
          rw [resume_node, Node.leaderReceive_negativeVote] at still
          cases (if_pos ended).symm.trans still
  | followerReceive message reading draw follower =>
      refine ⟨by simp [BetweenEvents], ?_⟩
      cases message with
      | negativeVote =>
          refine False.elim (breaks ?_)
          intro leader
          rw [follower] at leader
          cases leader
      | electionResult | updateMetrics =>
          exact False.elim (breaks trivial)
      | heartbeat leaderId metrics candidates =>
          intro follows
          apply breaks
          intro _ named
          have opened :
              applyStores process.sharedLeaderId
                  (process.node.followerReceive process.now reading
                    (.heartbeat leaderId metrics candidates)).2 =
                (process.node.followerReceive process.now reading
                  (.heartbeat leaderId metrics candidates)).1.id := by
            rw [applyStores_followerReceive, Node.followerReceive_id]
            exact named
          have leader := follows opened
          rw [resume_node, Node.followerReceive_heartbeat] at leader
          rw [follower] at leader
          cases leader

end Process

section Gate

variable {Addr : Type u} {id : UInt64} {peerAddrs : List Addr}

theorem gateFollowsState_initial_iff
    {source : Process Addr}
    (initial : (processSystem id peerAddrs).initial source) :
    Process.GateFollowsState source ↔ id ≠ 0 := by
  obtain ⟨extraSeconds, reading, now, rfl⟩ := initial
  constructor
  · intro follows zero
    cases follows zero.symm
  · intro nonzero opened
    exact False.elim (nonzero opened.symm)

/-- The gate follows the state throughout a run if and only if the node's id
is not the initial value of `CURRENT_LEADER_ID` and every step keeps the
gate. -/
theorem gateFollowsState_along_iff
    {source : Process Addr} {events : List NodeEvent}
    (initial : (processSystem id peerAddrs).initial source)
    (replay :
      ((processSystem id peerAddrs).run source events).isSome) :
    (processSystem id peerAddrs).HoldsAlong
        (fun process =>
          process.BetweenEvents → process.GateFollowsState)
        source events ↔
      id ≠ 0 ∧
        (processSystem id peerAddrs).MeetsAlong
          Process.KeepsGate source events := by
  have alongIff :
      id ≠ 0 →
        ((processSystem id peerAddrs).HoldsAlong
          (fun process =>
            process.BetweenEvents → process.GateFollowsState)
          source events ↔
        (processSystem id peerAddrs).MeetsAlong
          Process.KeepsGate source events) := by
    intro nonzero
    refine
      TransitionSystem.holdsAlong_iff_meetsAlong replay
        ((gateFollowsState_initial_iff initial).mpr nonzero)
        (fun _ follows _ => follows) ?_ ?_
    · intro process event target follows keeps stepped
      obtain ⟨effects, moves⟩ := processSystem_step_eq_some stepped
      exact follows.moves keeps moves
    · intro process event target runs _ breaks stepped holds
      have coherent : Process.Coherent id peerAddrs process :=
        coherent_of_runsWhere (coherent_of_initial initial) runs
      obtain ⟨effects, moves⟩ := processSystem_step_eq_some stepped
      obtain ⟨between, opened⟩ := coherent.opens breaks moves
      exact opened (holds between)
  constructor
  · intro holds
    have nonzero : id ≠ 0 := by
      apply (gateFollowsState_initial_iff initial).mp
      apply holds [] events rfl source rfl
      obtain ⟨extraSeconds, reading, now, rfl⟩ := initial
      simp [Process.BetweenEvents, Process.start]
    exact ⟨nonzero, (alongIff nonzero).mp holds⟩
  · rintro ⟨nonzero, keeps⟩
    exact (alongIff nonzero).mpr keeps

end Gate

/-! ## A deposed leader that keeps serving -/

/-- The vote of a lightly loaded node. -/
def lightVote (voterId : UInt64) : NodeEvent :=
  .receive
    (.negativeVote voterId .highCPULoad
      (collectMetrics (SystemReading.ofLoads 0 0)))
    (SystemReading.ofLoads 0 0) UnitDraw.zero

/-- Process 1 elects itself, is voted down by 2 and 3, and elects one of
them. -/
def deposition : List NodeEvent :=
  (candidacy (SystemReading.ofLoads 10 10)).map NodeEvent.act ++
    [.act .conclude,
     .act (.beat (SystemReading.ofLoads 10 10)), lightVote 2,
     .act (.beat (SystemReading.ofLoads 10 10)), lightVote 3,
     .act (.plainAnnounce (SystemReading.ofLoads 10 10)), .act .conclude]

theorem gateFollowsState_along_deposition :
    (processSystem 1 [2, 3]).HoldsAlong
        (fun process =>
          process.BetweenEvents → process.GateFollowsState)
        (Process.plainStart 1 [2, 3]) deposition ↔
      (1 : UInt64) ≠ 0 ∧
        (processSystem 1 [2, 3]).MeetsAlong
          Process.KeepsGate (Process.plainStart 1 [2, 3]) deposition :=
  gateFollowsState_along_iff (plainStart_initial 1 [2, 3])
    (by decide +kernel)

/-- Process 1 after it has elected process 3. -/
def deposedFollower : Process Nat :=
  ((processSystem 1 [2, 3]).run (Process.plainStart 1 [2, 3])
    deposition).get (by decide +kernel)

theorem gate_open_on_deposedFollower :
    ¬ ∀ (id : UInt64) (peerAddrs : List Nat) (process : Process Nat),
      (processSystem id peerAddrs).Reachable process →
        process.BetweenEvents → process.GateFollowsState := by
  intro follows
  have reachable :
      (processSystem 1 [2, 3]).Reachable deposedFollower :=
    TransitionSystem.reachable_of_run (plainStart_initial 1 [2, 3]) _
  have atTop : deposedFollower.pc = .top := by decide +kernel
  have opened :
      deposedFollower.sharedLeaderId = deposedFollower.node.id := by
    decide +kernel
  have follower : deposedFollower.node.state = .follower := by
    decide +kernel
  have leader :=
    follows 1 [2, 3] deposedFollower reachable
      (by simp [Process.BetweenEvents, atTop]) opened
  rw [follower] at leader
  cases leader

end CloudP2P.Election
