import CloudP2P.Election.Term

/-!
# The heartbeat timer

`run_follower` restarts its timer when it takes over the leader of a
heartbeat, `handle_election` when it installs a leader, and `Node::new` at
the start.  The `ElectionResult` arm installs a leader and lets the timer run
on, so that a follower may give up a leader of which it has just heard.
-/

universe u

namespace CloudP2P.Election

/-- When a node was started, and when it last processed a heartbeat, an
election result for another node, and the end of an election of its own. -/
structure Landmarks where
  start : Nat
  heartbeat : Option Nat
  electionResult : Option Nat
  election : Option Nat

namespace Landmarks

def atStart (now : Nat) : Landmarks where
  start := now
  heartbeat := none
  electionResult := none
  election := none

/-- The latest of them. -/
def latest (landmarks : Landmarks) : Nat :=
  max landmarks.start
    (max (landmarks.heartbeat.getD 0)
      (max (landmarks.electionResult.getD 0)
        (landmarks.election.getD 0)))

/-- The latest of those that restart the timer. -/
def timer (landmarks : Landmarks) : Nat :=
  max landmarks.start
    (max (landmarks.heartbeat.getD 0) (landmarks.election.getD 0))

variable {Addr : Type u}

def observe (source : Process Addr) (event : NodeEvent)
    (_target : Process Addr) (landmarks : Landmarks) : Landmarks :=
  match event with
  | .receive (.heartbeat _ _ _) _ _ =>
      { landmarks with heartbeat := some source.now }
  | .receive (.electionResult newLeaderId) _ _ =>
      if newLeaderId = source.node.id then
        landmarks
      else
        { landmarks with electionResult := some source.now }
  | .act .conclude => { landmarks with election := some source.now }
  | _ => landmarks

end Landmarks

/-- A process with its landmarks. -/
def timedSystem {Addr : Type u} (id : UInt64) (peerAddrs : List Addr)
    (start : Nat) :
    TransitionSystem (Process Addr × Landmarks) NodeEvent :=
  (processSystem id peerAddrs).observed (Landmarks.atStart start)
    Landmarks.observe

section Timer

variable {Addr : Type u} {id : UInt64} {peerAddrs : List Addr}

/-- A follower that becomes `DefactoLeader` has waited for more than its
timeout since the latest landmark. -/
def FullTimeout (state : Process Addr × Landmarks) (event : NodeEvent) :
    Prop :=
  ∀ result, state.1.step event = some result →
    state.1.node.state = .follower →
      result.1.node.state = .defactoLeader →
        state.1.node.heartbeatTimeout <
          state.1.now - state.2.latest

/-- The timer is not checked more than a timeout after its last restart and
while an election result for another node is at most a timeout old. -/
def NoLateCheck (state : Process Addr × Landmarks) (event : NodeEvent) :
    Prop :=
  event = .act .checkTimer →
    state.1.node.state = .follower → state.1.pc = .top →
      ∀ heard, state.2.electionResult = some heard →
        state.1.now ≤ state.2.timer + state.1.node.heartbeatTimeout ∨
          heard + state.1.node.heartbeatTimeout < state.1.now

/-- The timer of a follower runs from its last restart. -/
structure TimerRuns (state : Process Addr × Landmarks) : Prop where
  start_le : state.2.start ≤ state.1.now
  heartbeat_le : state.2.heartbeat.getD 0 ≤ state.1.now
  election_le : state.2.election.getD 0 ≤ state.1.now
  lastHeartbeat :
    state.1.node.state = .follower →
      state.1.node.lastHeartbeat = state.2.timer

private theorem timerRuns_leaderReceive
    {process : Process Addr} {landmarks : Landmarks}
    {message : NodeMessage} {reading : SystemReading} {draw : UnitDraw}
    {target : Process Addr}
    (runs : TimerRuns (process, landmarks))
    (sameNow : target.now = process.now)
    (notFollower : target.node.state ≠ .follower) :
    TimerRuns
      (target,
        Landmarks.observe process (.receive message reading draw) target
          landmarks) := by
  have notFollows :
      ∀ {property : Prop}, target.node.state = .follower → property :=
    fun follower => absurd follower notFollower
  cases message with
  | heartbeat leaderId metrics candidates =>
      exact
        { start_le := sameNow ▸ runs.start_le
          heartbeat_le := le_of_eq sameNow.symm
          election_le := sameNow ▸ runs.election_le
          lastHeartbeat := notFollows }
  | electionResult newLeaderId =>
      simp only [Landmarks.observe]
      split <;>
        exact
          { start_le := sameNow ▸ runs.start_le
            heartbeat_le := sameNow ▸ runs.heartbeat_le
            election_le := sameNow ▸ runs.election_le
            lastHeartbeat := notFollows }
  | negativeVote | updateMetrics =>
      exact
        { start_le := sameNow ▸ runs.start_le
          heartbeat_le := sameNow ▸ runs.heartbeat_le
          election_le := sameNow ▸ runs.election_le
          lastHeartbeat := notFollows }

private theorem timerRuns_followerReceive
    {process : Process Addr} {landmarks : Landmarks}
    {message : NodeMessage} {reading : SystemReading} {draw : UnitDraw}
    (runs : TimerRuns (process, landmarks))
    (follower : process.node.state = .follower) :
    TimerRuns
      ((process.resume
        (process.node.followerReceive process.now reading message).1 .top
        (process.node.followerReceive process.now reading message).2).1,
        Landmarks.observe process (.receive message reading draw)
          (process.resume
            (process.node.followerReceive process.now reading
              message).1 .top
            (process.node.followerReceive process.now reading
              message).2).1
          landmarks) := by
  have before := runs.lastHeartbeat follower
  cases message with
  | heartbeat leaderId metrics candidates =>
      have startLe := runs.start_le
      have electionLe := runs.election_le
      refine
        { start_le := startLe
          heartbeat_le := Nat.le_refl _
          election_le := electionLe
          lastHeartbeat := fun _ => ?_ }
      rw [Node.followerReceive_heartbeat]
      change
        process.now =
          max landmarks.start
            (max process.now (landmarks.election.getD 0))
      dsimp only at startLe electionLe
      omega
  | electionResult newLeaderId =>
      rw [Node.followerReceive_electionResult]
      by_cases named : newLeaderId = process.node.id
      · rw [if_pos named]
        simp only [Landmarks.observe, if_pos named]
        exact
          { start_le := runs.start_le
            heartbeat_le := runs.heartbeat_le
            election_le := runs.election_le
            lastHeartbeat := nofun }
      · rw [if_neg named]
        simp only [Landmarks.observe, if_neg named]
        exact
          { start_le := runs.start_le
            heartbeat_le := runs.heartbeat_le
            election_le := runs.election_le
            lastHeartbeat := fun _ => before }
  | negativeVote | updateMetrics =>
      exact
        { start_le := runs.start_le
          heartbeat_le := runs.heartbeat_le
          election_le := runs.election_le
          lastHeartbeat := fun _ => before }

/-- One step keeps the timer in step with the landmarks. -/
theorem TimerRuns.moves
    {process : Process Addr} {landmarks : Landmarks} {event : NodeEvent}
    {result : Process Addr × List Effect}
    (runs : TimerRuns (process, landmarks))
    (moves : Process.Moves process event result) :
    TimerRuns
      (result.1,
        Landmarks.observe process event result.1 landmarks) := by
  cases moves with
  | elapse duration =>
      exact
        { start_le := Nat.le_add_right_of_le runs.start_le
          heartbeat_le := Nat.le_add_right_of_le runs.heartbeat_le
          election_le := Nat.le_add_right_of_le runs.election_le
          lastHeartbeat := runs.lastHeartbeat }
  | beat | listen | idle | announce =>
      exact
        { start_le := runs.start_le
          heartbeat_le := runs.heartbeat_le
          election_le := runs.election_le
          lastHeartbeat := runs.lastHeartbeat }
  | expire =>
      exact
        { start_le := runs.start_le
          heartbeat_le := runs.heartbeat_le
          election_le := runs.election_le
          lastHeartbeat := nofun }
  | conclude newLeaderId =>
      have startLe := runs.start_le
      have heartbeatLe := runs.heartbeat_le
      refine
        { start_le := startLe
          heartbeat_le := heartbeatLe
          election_le := Nat.le_refl _
          lastHeartbeat := fun _ => ?_ }
      change
        process.now =
          max landmarks.start
            (max (landmarks.heartbeat.getD 0) process.now)
      dsimp only at startLe heartbeatLe
      omega
  | leaderReceive message reading draw leader =>
      exact
        timerRuns_leaderReceive runs rfl
          (Node.leaderReceive_state_ne_follower _ draw message leader)
  | followerReceive message reading draw follower =>
      exact timerRuns_followerReceive runs follower

theorem timerRuns_of_run
    {source : Process Addr}
    (initial : (processSystem id peerAddrs).initial source)
    {events : List NodeEvent} {state : Process Addr × Landmarks}
    (replay :
      (timedSystem id peerAddrs source.now).run
        (source, Landmarks.atStart source.now) events = some state) :
    TimerRuns state := by
  have begins :
      TimerRuns (source, Landmarks.atStart source.now) := by
    obtain ⟨extraSeconds, reading, now, rfl⟩ := initial
    exact
      { start_le := Nat.le_refl now
        heartbeat_le := Nat.zero_le now
        election_le := Nat.zero_le now
        lastHeartbeat := fun _ => (Nat.max_zero now).symm }
  refine
    TransitionSystem.observed_preserves ?_
      (TransitionSystem.runsWhere_of_run replay) begins
  intro process event target landmarks runs stepped
  obtain ⟨effects, moves⟩ := processSystem_step_eq_some stepped
  exact runs.moves moves

/-- The timer of a follower covers every landmark but the last election
result. -/
theorem TimerRuns.fullTimeout_iff
    {state : Process Addr × Landmarks} {event : NodeEvent}
    (runs : TimerRuns state) :
    FullTimeout state event ↔ NoLateCheck state event := by
  obtain ⟨process, landmarks⟩ := state
  constructor
  · intro full check follower atTop heard sameHeard
    subst check
    by_cases fresh :
        process.now ≤ landmarks.timer + process.node.heartbeatTimeout
    · exact Or.inl fresh
    · have lastHeartbeat := runs.lastHeartbeat follower
      dsimp only at lastHeartbeat
      have expired :
          process.node.heartbeatExpired process.now = true := by
        simp only [Node.heartbeatExpired, decide_eq_true_eq,
          lastHeartbeat]
        omega
      have fires :
          process.step (.act .checkTimer) =
            some
              (process.resume
                { process.node with state := .defactoLeader } .top
                []) := by
        dsimp only at follower atTop
        simp only [Process.step, Process.stepLocal, follower, atTop,
          expired, if_true]
      have waited := full _ fires follower rfl
      simp only [Landmarks.latest] at waited sameHeard
      rw [sameHeard, Option.getD_some] at waited
      right
      dsimp only
      omega
  · intro noLate result stepped follower defacto
    obtain ⟨check, atTop, expired⟩ :=
      (Process.moves_of_step stepped).becomesDefacto follower defacto
    have lastHeartbeat := runs.lastHeartbeat follower
    have clear := noLate check follower atTop
    simp only [Node.heartbeatExpired, decide_eq_true_eq] at expired
    simp only [Landmarks.latest, Landmarks.timer] at lastHeartbeat clear ⊢
    cases heard : landmarks.electionResult with
    | none =>
        rw [Option.getD_none]
        omega
    | some time =>
        have recent := clear time heard
        rw [Option.getD_some]
        omega

/-- Along every run, a follower that times out has waited for its full
timeout if and only if it never checks its timer more than a timeout after
the last restart and while an election result for another node is at most a
timeout old. -/
theorem fullTimeout_along_iff
    {source : Process Addr}
    (initial : (processSystem id peerAddrs).initial source)
    (events : List NodeEvent) :
    (timedSystem id peerAddrs source.now).MeetsAlong FullTimeout
        (source, Landmarks.atStart source.now) events ↔
      (timedSystem id peerAddrs source.now).MeetsAlong NoLateCheck
        (source, Landmarks.atStart source.now) events := by
  constructor
  · intro full earlier event later split middle reached
    exact
      (timerRuns_of_run initial reached).fullTimeout_iff.mp
        (full earlier event later split middle reached)
  · intro noLate earlier event later split middle reached
    exact
      (timerRuns_of_run initial reached).fullTimeout_iff.mpr
        (noLate earlier event later split middle reached)

end Timer

/-! ## A result that comes late -/

/-- Process 1 is told after four seconds that node 2 leads, and checks its
timer of five seconds two seconds later. -/
def lateResult : List NodeEvent :=
  [.act (.elapse (fromSecs 4)), .act .checkTimer,
   .receive (.electionResult 2) (SystemReading.ofLoads 10 10)
     UnitDraw.zero,
   .act (.elapse (fromSecs 2))]

theorem fullTimeout_along_lateResult :
    (timedSystem 1 [2, 3] 0).MeetsAlong FullTimeout
        (Process.plainStart 1 [2, 3], Landmarks.atStart 0)
        (lateResult ++ [.act .checkTimer]) ↔
      (timedSystem 1 [2, 3] 0).MeetsAlong NoLateCheck
        (Process.plainStart 1 [2, 3], Landmarks.atStart 0)
        (lateResult ++ [.act .checkTimer]) :=
  fullTimeout_along_iff (plainStart_initial 1 [2, 3]) _

/-- Process 1 right before that check. -/
def lateCheck : Process Nat × Landmarks :=
  ((timedSystem 1 [2, 3] 0).run
    (Process.plainStart 1 [2, 3], Landmarks.atStart 0) lateResult).get
      (by decide +kernel)

/-- It gives the leader up two seconds after it has heard of it. -/
theorem lateResult_cuts_timeout :
    ¬ ∀ (id : UInt64) (peerAddrs : List Nat) (source : Process Nat)
        (events : List NodeEvent),
      (processSystem id peerAddrs).initial source →
        (timedSystem id peerAddrs source.now).MeetsAlong FullTimeout
          (source, Landmarks.atStart source.now) events := by
  intro full
  have waited :=
    full 1 [2, 3] (Process.plainStart 1 [2, 3])
      (lateResult ++ [.act .checkTimer]) (plainStart_initial 1 [2, 3])
      lateResult (.act .checkTimer) [] rfl lateCheck
      (Option.some_get _).symm _
      (Option.some_get (by decide +kernel)).symm (by decide +kernel)
      (by decide +kernel)
  exact absurd waited (by decide +kernel)

end CloudP2P.Election
