import CloudP2P.Election.Term

/-!
# Elections that follow each other

`handle_election` always finds a winner, because the elector is in its own
pool, and it leaves an empty pool behind.  Only heartbeats and votes fill it
again, and votes only for a leader, which does not become a follower but by
its next election.  A follower whose timer fires without a heartbeat since
its last election therefore has itself as the only candidate.
-/

universe u

namespace CloudP2P.Election

section Election

variable {Addr : Type u}

/-- No result has been announced yet. -/
def BeforeAnnounce (_process : Process Addr) (event : NodeEvent) : Prop :=
  ∀ reading draw draws, event ≠ .act (.announce reading draw draws)

/-- The broadcast of the result has not come back yet. -/
def BeforeConclude (_process : Process Addr) (event : NodeEvent) : Prop :=
  event ≠ .act .conclude

variable (id : UInt64) (peerAddrs : List Addr)

/-- However long its broadcast takes, `handle_election` ends after the
announcement of `newLeaderId` with `outcome`. -/
def ConcludesWith (process : Process Addr) (newLeaderId : UInt64)
    (outcome : UInt64 → Node Addr → Prop) : Prop :=
  process.pc = .announced newLeaderId ∧
    ∀ waiting,
      (processSystem id peerAddrs).RunsWhere BeforeConclude process
          waiting →
        ∃ concluded,
          (processSystem id peerAddrs).step waiting (.act .conclude) =
              some concluded ∧
            outcome newLeaderId concluded.node

/-- Whatever it measures and draws and however time passes,
`handle_election` elects an id from its candidates and ends with
`outcome`. -/
def ElectsWith (process : Process Addr)
    (outcome : UInt64 → Node Addr → Prop) : Prop :=
  ∀ waiting,
    (processSystem id peerAddrs).RunsWhere BeforeAnnounce process
        waiting →
      ∀ reading draw draws, ∃ newLeaderId announced,
        newLeaderId ∈
            (updatePool draw waiting.node.id (collectMetrics reading)
              waiting.node.candidates).map Candidate.id ∧
          (processSystem id peerAddrs).step waiting
              (.act (.announce reading draw draws)) = some announced ∧
          ConcludesWith id peerAddrs announced newLeaderId outcome

variable {id : UInt64} {peerAddrs : List Addr}

/-- Until its own next step, an election leaves the node alone. -/
theorem node_of_waiting
    {allowed : Process Addr → NodeEvent → Prop}
    {process waiting : Process Addr}
    (defacto : process.node.state = .defactoLeader)
    (inside : process.pc ≠ .accept)
    (waits : ∀ source event, allowed source event →
      (process.pc = .top → BeforeAnnounce source event) ∧
        (process.pc ≠ .top → BeforeConclude source event))
    (runs :
      (processSystem id peerAddrs).RunsWhere allowed process waiting) :
    waiting.node = process.node ∧ waiting.pc = process.pc := by
  have step :
      ∀ (source : Process Addr) event target,
        source.node = process.node ∧ source.pc = process.pc →
          allowed source event →
            (processSystem id peerAddrs).step source event =
                some target →
              target.node = process.node ∧ target.pc = process.pc := by
    rintro source event target ⟨sameNode, samePc⟩ admitted stepped
    obtain ⟨effects, moves⟩ := processSystem_step_eq_some stepped
    obtain ⟨notAnnounced, notConcluded⟩ := waits source event admitted
    have stillDefacto : source.node.state = .defactoLeader := by
      rw [sameNode, defacto]
    have stillInside : source.pc ≠ .accept := by
      rw [samePc]
      exact inside
    rcases moves.duringElection stillDefacto stillInside with
      ⟨keepsNode, keepsPc⟩ | ⟨atTop, reading, draw, draws, announces⟩ |
        ⟨notTop, concludes⟩
    · exact ⟨keepsNode.trans sameNode, keepsPc.trans samePc⟩
    · rw [samePc] at atTop
      exact
        False.elim (notAnnounced atTop reading draw draws announces)
    · rw [samePc] at notTop
      exact False.elim (notConcluded notTop concludes)
  exact runs.preserves step ⟨rfl, rfl⟩

/-- After the announcement the node is known up to the clock. -/
theorem concludesWith_of_announced
    {process : Process Addr} {newLeaderId : UInt64}
    {outcome : UInt64 → Node Addr → Prop}
    (defacto : process.node.state = .defactoLeader)
    (announced : process.pc = .announced newLeaderId)
    (holds : ∀ now,
      outcome newLeaderId
        (process.node.concludeElection now newLeaderId).1) :
    ConcludesWith id peerAddrs process newLeaderId outcome := by
  refine ⟨announced, ?_⟩
  intro waiting runs
  have notTop : process.pc ≠ .top := by
    rw [announced]
    nofun
  have inside : process.pc ≠ .accept := by
    rw [announced]
    nofun
  obtain ⟨sameNode, samePc⟩ :=
    node_of_waiting defacto inside
      (fun _ _ waits => ⟨fun atTop => absurd atTop notTop, fun _ => waits⟩)
      runs
  rw [announced] at samePc
  have stillDefacto : waiting.node.state = .defactoLeader := by
    rw [sameNode, defacto]
  have stepped :
      (processSystem id peerAddrs).step waiting (.act .conclude) =
        some
          (waiting.resume
            (waiting.node.concludeElection waiting.now newLeaderId).1 .top
            (waiting.node.concludeElection waiting.now
              newLeaderId).2).1 := by
    simp only [processSystem, Process.step, Process.stepLocal,
      stillDefacto, samePc, Option.map_some]
  refine ⟨_, stepped, ?_⟩
  rw [Process.resume_node, sameNode]
  exact holds waiting.now

theorem electsWith_of_defacto
    {process : Process Addr} {outcome : UInt64 → Node Addr → Prop}
    (defacto : process.node.state = .defactoLeader)
    (atTop : process.pc = .top)
    (holds : ∀ reading draw draws newLeaderId now,
      electLeader draws
          (updatePool draw process.node.id (collectMetrics reading)
            process.node.candidates) = some newLeaderId →
        outcome newLeaderId
          ((process.node.updateCandidate draw process.node.id
            (collectMetrics reading)).concludeElection now
              newLeaderId).1) :
    ElectsWith id peerAddrs process outcome := by
  intro waiting runs reading draw draws
  have inside : process.pc ≠ .accept := by
    rw [atTop]
    nofun
  obtain ⟨sameNode, samePc⟩ :=
    node_of_waiting defacto inside
      (fun _ _ waits => ⟨fun _ => waits, fun notTop => absurd atTop notTop⟩)
      runs
  rw [atTop] at samePc
  obtain ⟨newLeaderId, elected, announcement⟩ :=
    process.node.announceElection_elects reading draw draws
  rw [← sameNode] at elected announcement defacto
  have stepped :
      (processSystem id peerAddrs).step waiting
          (.act (.announce reading draw draws)) =
        some
          (waiting.resume
            (waiting.node.updateCandidate draw waiting.node.id
              (collectMetrics reading))
            (.announced newLeaderId)
            [.broadcast (.electionResult newLeaderId)]).1 := by
    simp only [processSystem, Process.step, Process.stepLocal, defacto,
      samePc, announcement, Option.map_some]
  refine ⟨newLeaderId, _, electLeader_mem elected, stepped, ?_⟩
  apply concludesWith_of_announced
  · exact defacto
  · rfl
  · intro now
    rw [sameNode] at elected
    rw [Process.resume_node, sameNode]
    exact holds reading draw draws newLeaderId now elected

/-! ## Every election ends -/

/-- The node leads or follows, as the result says, and has cleared what it
has collected. -/
structure ElectionOver (newLeaderId : UInt64) (node : Node Addr) :
    Prop where
  state :
    node.state = if newLeaderId = node.id then .leader else .follower
  candidates : node.candidates = []
  votes : node.negativeVotesReceived = ∅

theorem electionOver_concludeElection
    (node : Node Addr) (now : Nat) (newLeaderId : UInt64) :
    ElectionOver newLeaderId
      (node.concludeElection now newLeaderId).1 where
  state := rfl
  candidates := rfl
  votes := rfl

/-- A node in `DefactoLeader` waits for no message. -/
theorem defacto_not_accepting
    {process : Process Addr}
    (reachable : (processSystem id peerAddrs).Reachable process)
    (defacto : process.node.state = .defactoLeader) :
    process.pc ≠ .accept := by
  have begins :
      ∀ source, (processSystem id peerAddrs).initial source →
        (source.pc = .accept → source.node.state ≠ .defactoLeader) := by
    rintro source ⟨extraSeconds, reading, now, rfl⟩ accepting
    cases accepting
  have step :
      ∀ (source : Process Addr) event target,
        (source.pc = .accept → source.node.state ≠ .defactoLeader) →
          (processSystem id peerAddrs).step source event =
              some target →
            target.pc = .accept →
              target.node.state ≠ .defactoLeader := by
    intro source event target holds stepped accepting
    obtain ⟨effects, moves⟩ := processSystem_step_eq_some stepped
    cases moves with
    | elapse =>
        exact holds accepting
    | beat _ leader =>
        change source.node.state ≠ .defactoLeader
        rw [leader]
        nofun
    | listen follower =>
        change source.node.state ≠ .defactoLeader
        rw [follower]
        nofun
    | expire | idle | announce | conclude | leaderReceive |
        followerReceive =>
        cases accepting
  intro accepting
  exact reachable.invariant begins step accepting defacto

/-! ## An election without a heartbeat -/

/-- Whether a heartbeat has been processed since the last election. -/
def hears (_source : Process Addr) (event : NodeEvent)
    (_target : Process Addr) (heard : Bool) : Bool :=
  match event with
  | .receive (.heartbeat _ _ _) _ _ => true
  | .act .conclude => false
  | _ => heard

/-- A process that remembers whether it has heard a heartbeat. -/
def hearingSystem (id : UInt64) (peerAddrs : List Addr) :
    TransitionSystem (Process Addr × Bool) NodeEvent :=
  (processSystem id peerAddrs).observed false hears

/-- A follower that has heard no heartbeat since its last election has no
candidates. -/
def EmptyUnlessHeard (state : Process Addr × Bool) : Prop :=
  state.2 = false → state.1.node.state = .follower →
    state.1.node.candidates = []

theorem EmptyUnlessHeard.moves
    {process : Process Addr} {heard : Bool} {event : NodeEvent}
    {result : Process Addr × List Effect}
    (empty : EmptyUnlessHeard (process, heard))
    (moves : Process.Moves process event result) :
    EmptyUnlessHeard
      (result.1, hears process event result.1 heard) := by
  intro silent follower
  cases moves with
  | elapse | beat | listen | idle =>
      exact empty silent follower
  | expire =>
      cases follower
  | announce _ _ _ _ defacto =>
      exact nomatch defacto.symm.trans follower
  | conclude =>
      rfl
  | leaderReceive message reading draw leader =>
      exact
        absurd follower
          (Node.leaderReceive_state_ne_follower _ draw message leader)
  | followerReceive message reading draw follows =>
      cases message with
      | heartbeat =>
          cases silent
      | electionResult newLeaderId =>
          rw [Process.resume_node, Node.followerReceive_electionResult]
          split <;> exact empty silent follows
      | negativeVote | updateMetrics =>
          exact empty silent follows

theorem emptyUnlessHeard_of_reachable
    {state : Process Addr × Bool}
    (reachable : (hearingSystem id peerAddrs).Reachable state) :
    EmptyUnlessHeard state := by
  obtain ⟨⟨process, heard⟩, ⟨initial, _⟩, runs⟩ := reachable
  refine TransitionSystem.observed_preserves ?_ runs ?_
  · intro source event target earlier empty stepped
    obtain ⟨effects, moves⟩ := processSystem_step_eq_some stepped
    exact empty.moves moves
  · obtain ⟨extraSeconds, reading, now, rfl⟩ := initial
    intro _ _
    rfl

/-- In its own pool alone, a node elects itself. -/
theorem electLeader_updatePool_nil
    (draws : Nat → UnitDraw) (draw : UnitDraw) (candidateId : UInt64)
    (metrics : SystemMetrics) :
    electLeader draws (updatePool draw candidateId metrics []) =
      some candidateId := rfl

/-- The node has elected itself and leads. -/
def LeadsByItself (newLeaderId : UInt64) (node : Node Addr) : Prop :=
  newLeaderId = node.id ∧ node.state = .leader

/-- Every election ends with a leader from its candidates and clears what was
collected; and a follower whose timer fires without a heartbeat since its
last election, or since its start, elects itself. -/
theorem elections_conclude (id : UInt64) (peerAddrs : List Addr) :
    (∀ process : Process Addr,
      (processSystem id peerAddrs).Reachable process →
        process.node.state = .defactoLeader →
          (process.pc = .top ∧
              ElectsWith id peerAddrs process ElectionOver) ∨
            ∃ newLeaderId,
              ConcludesWith id peerAddrs process newLeaderId
                ElectionOver) ∧
      ∀ (state : Process Addr × Bool) event result,
        (hearingSystem id peerAddrs).Reachable state →
          state.2 = false →
            state.1.step event = some result →
              state.1.node.state = .follower →
                result.1.node.state = .defactoLeader →
                  ElectsWith id peerAddrs result.1 LeadsByItself := by
  constructor
  · intro process reachable defacto
    cases pc : process.pc with
    | top =>
        refine Or.inl ⟨rfl, ?_⟩
        apply electsWith_of_defacto defacto pc
        intro reading draw draws newLeaderId now _
        exact electionOver_concludeElection _ now newLeaderId
    | announced newLeaderId =>
        refine Or.inr ⟨newLeaderId, ?_⟩
        apply concludesWith_of_announced defacto pc
        intro now
        exact electionOver_concludeElection _ now newLeaderId
    | accept =>
        exact absurd pc (defacto_not_accepting reachable defacto)
  · intro state event result reachable silent stepped follower defacto
    have empty :=
      emptyUnlessHeard_of_reachable reachable silent follower
    have moves := Process.moves_of_step stepped
    obtain ⟨check, atTop, expired⟩ :=
      moves.becomesDefacto follower defacto
    subst check
    cases moves with
    | listen _ _ fresh =>
        cases fresh.symm.trans expired
    | expire =>
        apply electsWith_of_defacto
        · rfl
        · rfl
        · intro reading draw draws newLeaderId now elected
          rw [Process.resume_node] at elected ⊢
          dsimp only at elected
          rw [empty, electLeader_updatePool_nil, Option.some.injEq]
            at elected
          subst elected
          exact ⟨rfl, if_pos rfl⟩

end Election

/-! ## A first election -/

/-- Process 1 has waited for six seconds and heard nobody. -/
def silentFollower : Process Nat × Bool :=
  ((hearingSystem 1 [2, 3]).run (Process.plainStart 1 [2, 3], false)
    [.act (.elapse (fromSecs 6))]).get (by decide +kernel)

theorem silentFollower_reachable :
    (hearingSystem 1 [2, 3]).Reachable silentFollower :=
  TransitionSystem.reachable_of_run
    (TransitionSystem.observed_initial (plainStart_initial 1 [2, 3])) _

/-- Its timer fires. -/
def silentCandidate : Process Nat × List Effect :=
  (silentFollower.1.step (.act .checkTimer)).get (by decide +kernel)

theorem elections_conclude_silentCandidate :
    silentCandidate.1.node.state = .defactoLeader ∧
      ElectsWith 1 [2, 3] silentCandidate.1 LeadsByItself := by
  have defacto : silentCandidate.1.node.state = .defactoLeader := by
    decide +kernel
  exact
    ⟨defacto,
      (elections_conclude 1 [2, 3]).2 silentFollower (.act .checkTimer) _
        silentFollower_reachable (by decide +kernel)
        (Option.some_get _).symm (by decide +kernel) defacto⟩

end CloudP2P.Election
