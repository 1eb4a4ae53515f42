import CloudP2P.TransitionSystem
import CloudP2P.Election.Node

/-!
# The control flow of one provider process

`Node::run` and the loops of `run_leader` and `run_follower` as a transition
system.  A process is a node, the static `CURRENT_LEADER_ID` of its process,
its clock, and a program counter that marks the await points at which other
processes may run:

* `top` is the head of a loop, or the entry of the method that `run` selects;
* `accept` is the wait of a loop for an incoming connection;
* `announced` is the await of the broadcast inside `handle_election`.

`Moves` lists what one step can do; every invariant is derived from it.
-/

universe u

namespace CloudP2P.Election

inductive Pc where
  | top
  | accept
  | announced (newLeaderId : UInt64)
  deriving DecidableEq

structure Process (Addr : Type u) where
  node : Node Addr
  /-- `CURRENT_LEADER_ID` -/
  sharedLeaderId : UInt64
  now : Nat
  pc : Pc

/-- The steps a process takes by itself. -/
inductive LocalEvent where
  | elapse (duration : Nat)
  | beat (reading : SystemReading)
  | checkTimer
  | idle
  | announce (reading : SystemReading) (draw : UnitDraw)
      (draws : Nat → UnitDraw)
  | conclude

inductive NodeEvent where
  | act (event : LocalEvent)
  | receive (message : NodeMessage) (reading : SystemReading)
      (draw : UnitDraw)

/-- The value of `CURRENT_LEADER_ID` after some effects. -/
def applyStores (sharedLeaderId : UInt64) : List Effect → UInt64
  | [] => sharedLeaderId
  | .store leaderId :: rest => applyStores leaderId rest
  | .broadcast _ :: rest => applyStores sharedLeaderId rest

/-- The leader that a message makes a follower store. -/
def NodeMessage.namedLeader : NodeMessage → Option UInt64
  | .heartbeat leaderId _ _ => some leaderId
  | .electionResult newLeaderId => some newLeaderId
  | .negativeVote _ _ _ => none
  | .updateMetrics _ => none

/-- A follower stores the leader that a message names, and nothing else. -/
theorem applyStores_followerReceive
    {Addr : Type u} (node : Node Addr) (now : Nat)
    (reading : SystemReading) (message : NodeMessage)
    (sharedLeaderId : UInt64) :
    applyStores sharedLeaderId
        (node.followerReceive now reading message).2 =
      message.namedLeader.getD sharedLeaderId := by
  cases message with
  | heartbeat leaderId metrics candidates =>
      simp only [Node.followerReceive]
      split <;> rfl
  | electionResult newLeaderId =>
      simp only [Node.followerReceive]
      split <;> rfl
  | negativeVote | updateMetrics =>
      rfl

namespace Process

variable {Addr : Type u}

/-- A process right after `Node::new`; the static starts at zero. -/
def start (id : UInt64) (peerAddrs : List Addr) (extraSeconds : Fin 20)
    (reading : SystemReading) (now : Nat) : Process Addr where
  node := Node.new id peerAddrs extraSeconds reading now
  sharedLeaderId := 0
  now := now
  pc := .top

/-- Continue at `pc` with an updated node after some effects. -/
def resume (process : Process Addr) (node : Node Addr) (pc : Pc)
    (effects : List Effect) : Process Addr × List Effect :=
  ({ process with
      node := node
      sharedLeaderId := applyStores process.sharedLeaderId effects
      pc := pc },
    effects)

def stepLocal (process : Process Addr) :
    LocalEvent → Option (Process Addr × List Effect)
  | .elapse duration =>
      some ({ process with now := process.now + duration }, [])
  | .beat reading =>
      match process.node.state, process.pc with
      | .leader, .top =>
          let (node, effects) := process.node.leaderBeat reading
          some (process.resume node .accept effects)
      | _, _ => none
  | .checkTimer =>
      match process.node.state, process.pc with
      | .follower, .top =>
          if process.node.heartbeatExpired process.now then
            some
              (process.resume
                { process.node with state := .defactoLeader } .top [])
          else
            some (process.resume process.node .accept [])
      | _, _ => none
  -- no connection within the wait, or one that yields no message
  | .idle =>
      match process.pc with
      | .accept => some (process.resume process.node .top [])
      | _ => none
  | .announce reading draw draws =>
      match process.node.state, process.pc with
      | .defactoLeader, .top =>
          match process.node.announceElection reading draw draws with
          | (node, some newLeaderId) =>
              some
                (process.resume node (.announced newLeaderId)
                  [.broadcast (.electionResult newLeaderId)])
          | (node, none) => some (process.resume node .top [])
      | _, _ => none
  | .conclude =>
      match process.node.state, process.pc with
      | .defactoLeader, .announced newLeaderId =>
          let (node, effects) :=
            process.node.concludeElection process.now newLeaderId
          some (process.resume node .top effects)
      | _, _ => none

def receive (process : Process Addr) (message : NodeMessage)
    (reading : SystemReading) (draw : UnitDraw) :
    Option (Process Addr × List Effect) :=
  match process.node.state, process.pc with
  | .leader, .accept =>
      some (process.resume (process.node.leaderReceive draw message) .top [])
  | .follower, .accept =>
      let (node, effects) :=
        process.node.followerReceive process.now reading message
      some (process.resume node .top effects)
  | _, _ => none

def step (process : Process Addr) :
    NodeEvent → Option (Process Addr × List Effect)
  | .act event => process.stepLocal event
  | .receive message reading draw => process.receive message reading draw

section Resume

variable (process : Process Addr) (node : Node Addr) (pc : Pc)
variable (effects : List Effect)

@[simp]
theorem resume_node : (process.resume node pc effects).1.node = node := rfl

@[simp]
theorem resume_pc : (process.resume node pc effects).1.pc = pc := rfl

@[simp]
theorem resume_sharedLeaderId :
    (process.resume node pc effects).1.sharedLeaderId =
      applyStores process.sharedLeaderId effects := rfl

@[simp]
theorem resume_effects :
    (process.resume node pc effects).2 = effects := rfl

end Resume

/-- Everything that one step of a process can do, with its guards. -/
inductive Moves (process : Process Addr) :
    NodeEvent → Process Addr × List Effect → Prop where
  | elapse (duration : Nat) :
      Moves process (.act (.elapse duration))
        ({ process with now := process.now + duration }, [])
  | beat (reading : SystemReading)
      (leader : process.node.state = .leader)
      (atTop : process.pc = .top) :
      Moves process (.act (.beat reading))
        (process.resume (process.node.leaderBeat reading).1 .accept
          (process.node.leaderBeat reading).2)
  | expire
      (follower : process.node.state = .follower)
      (atTop : process.pc = .top)
      (expired : process.node.heartbeatExpired process.now = true) :
      Moves process (.act .checkTimer)
        (process.resume
          { process.node with state := .defactoLeader } .top [])
  | listen
      (follower : process.node.state = .follower)
      (atTop : process.pc = .top)
      (fresh : process.node.heartbeatExpired process.now = false) :
      Moves process (.act .checkTimer)
        (process.resume process.node .accept [])
  | idle (accepting : process.pc = .accept) :
      Moves process (.act .idle) (process.resume process.node .top [])
  | announce (reading : SystemReading) (draw : UnitDraw)
      (draws : Nat → UnitDraw) (newLeaderId : UInt64)
      (defacto : process.node.state = .defactoLeader)
      (atTop : process.pc = .top)
      (elected :
        electLeader draws
          (updatePool draw process.node.id (collectMetrics reading)
            process.node.candidates) = some newLeaderId) :
      Moves process (.act (.announce reading draw draws))
        (process.resume
          (process.node.updateCandidate draw process.node.id
            (collectMetrics reading))
          (.announced newLeaderId)
          [.broadcast (.electionResult newLeaderId)])
  | conclude (newLeaderId : UInt64)
      (defacto : process.node.state = .defactoLeader)
      (announced : process.pc = .announced newLeaderId) :
      Moves process (.act .conclude)
        (process.resume
          (process.node.concludeElection process.now newLeaderId).1 .top
          (process.node.concludeElection process.now newLeaderId).2)
  | leaderReceive (message : NodeMessage) (reading : SystemReading)
      (draw : UnitDraw)
      (leader : process.node.state = .leader)
      (accepting : process.pc = .accept) :
      Moves process (.receive message reading draw)
        (process.resume (process.node.leaderReceive draw message) .top [])
  | followerReceive (message : NodeMessage) (reading : SystemReading)
      (draw : UnitDraw)
      (follower : process.node.state = .follower)
      (accepting : process.pc = .accept) :
      Moves process (.receive message reading draw)
        (process.resume
          (process.node.followerReceive process.now reading message).1 .top
          (process.node.followerReceive process.now reading message).2)

private theorem moves_of_announce
    {process : Process Addr} {reading : SystemReading} {draw : UnitDraw}
    {draws : Nat → UnitDraw} {result : Process Addr × List Effect}
    (defacto : process.node.state = .defactoLeader)
    (atTop : process.pc = .top)
    (stepped :
      process.stepLocal (.announce reading draw draws) = some result) :
    Moves process (.act (.announce reading draw draws)) result := by
  obtain ⟨newLeaderId, elected, announcement⟩ :=
    process.node.announceElection_elects reading draw draws
  simp only [stepLocal, defacto, atTop, announcement] at stepped
  cases stepped
  exact Moves.announce reading draw draws newLeaderId defacto atTop elected

/-- The inversion lemma of `step`. -/
theorem moves_of_step
    {process : Process Addr} {event : NodeEvent}
    {result : Process Addr × List Effect}
    (stepped : process.step event = some result) :
    Moves process event result := by
  cases event with
  | act event =>
      change process.stepLocal event = some result at stepped
      cases event with
      | elapse duration =>
          cases stepped
          exact Moves.elapse duration
      | beat reading =>
          cases state : process.node.state <;> cases pc : process.pc <;>
            simp only [stepLocal, state, pc, reduceCtorEq,
              Option.some.injEq] at stepped
          rw [← stepped]
          exact Moves.beat reading state pc
      | checkTimer =>
          cases state : process.node.state <;> cases pc : process.pc <;>
            simp only [stepLocal, state, pc, reduceCtorEq] at stepped
          split at stepped
          · rename_i expired
            cases stepped
            exact Moves.expire state pc expired
          · rename_i fresh
            cases stepped
            exact Moves.listen state pc (Bool.eq_false_iff.mpr fresh)
      | idle =>
          cases pc : process.pc <;>
            simp only [stepLocal, pc, reduceCtorEq,
              Option.some.injEq] at stepped
          rw [← stepped]
          exact Moves.idle pc
      | announce reading draw draws =>
          cases state : process.node.state <;> cases pc : process.pc <;>
            first
            | exact moves_of_announce state pc stepped
            | simp only [stepLocal, state, pc, reduceCtorEq] at stepped
      | conclude =>
          cases state : process.node.state <;> cases pc : process.pc <;>
            simp only [stepLocal, state, pc, reduceCtorEq,
              Option.some.injEq] at stepped
          rw [← stepped]
          exact Moves.conclude _ state pc
  | receive message reading draw =>
      change process.receive message reading draw = some result at stepped
      cases state : process.node.state <;> cases pc : process.pc <;>
        simp only [receive, state, pc, reduceCtorEq,
          Option.some.injEq] at stepped
      · rw [← stepped]
        exact Moves.followerReceive message reading draw state pc
      · rw [← stepped]
        exact Moves.leaderReceive message reading draw state pc

/-- Without another event at its await, `handle_election` has the effect of
its two pieces. -/
theorem announce_conclude
    {process : Process Addr} {reading : SystemReading} {draw : UnitDraw}
    {draws : Nat → UnitDraw}
    (defacto : process.node.state = .defactoLeader)
    (atTop : process.pc = .top) :
    ∃ middle first second,
      process.stepLocal (.announce reading draw draws) =
          some (middle, first) ∧
        middle.stepLocal .conclude =
          some
            ((process.resume
              (process.node.handleElection process.now reading draw
                draws).1 .top
              (process.node.handleElection process.now reading draw
                draws).2).1, second) ∧
        first ++ second =
          (process.node.handleElection process.now reading draw
            draws).2 := by
  obtain ⟨newLeaderId, elected, announcement⟩ :=
    process.node.announceElection_elects reading draw draws
  simp only [stepLocal, defacto, atTop, announcement,
    Node.handleElection]
  refine ⟨_, _, _, rfl, ?_, rfl⟩
  simp [resume, Node.updateCandidate, defacto, applyStores]

/-- Inside `handle_election` only its own two steps do more than let time
pass. -/
theorem Moves.duringElection
    {process : Process Addr} {event : NodeEvent}
    {result : Process Addr × List Effect}
    (moves : Moves process event result)
    (defacto : process.node.state = .defactoLeader)
    (inside : process.pc ≠ .accept) :
    (result.1.node = process.node ∧ result.1.pc = process.pc) ∨
      (process.pc = .top ∧
        ∃ reading draw draws,
          event = .act (.announce reading draw draws)) ∨
      (process.pc ≠ .top ∧ event = .act .conclude) := by
  cases moves with
  | elapse =>
      exact Or.inl ⟨rfl, rfl⟩
  | announce reading draw draws _ _ atTop =>
      exact Or.inr (Or.inl ⟨atTop, reading, draw, draws, rfl⟩)
  | conclude _ _ announced =>
      refine Or.inr (Or.inr ⟨?_, rfl⟩)
      rw [announced]
      nofun
  | idle accepting | leaderReceive _ _ _ _ accepting =>
      exact absurd accepting inside
  | followerReceive _ _ _ _ accepting =>
      exact absurd accepting inside
  | beat _ leader =>
      rw [defacto] at leader
      cases leader
  | expire follower | listen follower =>
      rw [defacto] at follower
      cases follower

/-- A follower only becomes `DefactoLeader` by its timer. -/
theorem Moves.becomesDefacto
    {process : Process Addr} {event : NodeEvent}
    {result : Process Addr × List Effect}
    (moves : Moves process event result)
    (follower : process.node.state = .follower)
    (defacto : result.1.node.state = .defactoLeader) :
    event = .act .checkTimer ∧ process.pc = .top ∧
      process.node.heartbeatExpired process.now = true := by
  cases moves with
  | expire _ atTop expired =>
      exact ⟨rfl, atTop, expired⟩
  | elapse | listen | idle =>
      exact nomatch follower.symm.trans defacto
  | beat _ leader | leaderReceive _ _ _ leader =>
      exact nomatch follower.symm.trans leader
  | announce _ _ _ _ electing | conclude _ electing =>
      exact nomatch follower.symm.trans electing
  | followerReceive message =>
      cases message with
      | heartbeat =>
          rw [resume_node, Node.followerReceive_heartbeat]
            at defacto
          exact nomatch follower.symm.trans defacto
      | electionResult =>
          rw [resume_node, Node.followerReceive_electionResult]
            at defacto
          split at defacto
          · cases defacto
          · exact nomatch follower.symm.trans defacto
      | negativeVote | updateMetrics =>
          exact nomatch follower.symm.trans defacto

end Process

/-- One provider process with id `id` and peers `peerAddrs`, receiving
arbitrary messages. -/
def processSystem {Addr : Type u} (id : UInt64) (peerAddrs : List Addr) :
    TransitionSystem (Process Addr) NodeEvent where
  initial process :=
    ∃ extraSeconds reading now,
      process = Process.start id peerAddrs extraSeconds reading now
  step process event := (process.step event).map Prod.fst

end CloudP2P.Election
