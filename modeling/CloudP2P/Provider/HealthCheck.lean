import CloudP2P.Provider.Sweep
import Mathlib.Logic.Function.Basic

/-!
# The health check of a connection

`is_active` takes a connection for alive when `open_uni` yields a stream
within five seconds.  The peer lets only so many unidirectional streams be
open at once, and a stream counts until the application of the peer has
accepted it.  The client accepts bidirectional streams only, so each answer
uses up one of them for good.

The five seconds are taken to elapse.  The source waits for `open_uni` inside
`block_on`, and where that does not return, neither does the sweep.
-/

universe u v

namespace CloudP2P.Provider

/-- The streams that the provider has opened on a connection, and those that
the client has accepted. -/
structure QuicConnection where
  uniOpened : Nat
  uniAccepted : Nat
  biOpened : Nat
  biAccepted : Nat
  closed : Bool

namespace QuicConnection

def fresh : QuicConnection where
  uniOpened := 0
  uniAccepted := 0
  biOpened := 0
  biAccepted := 0
  closed := false

/-- `open_uni`; nothing on a closed connection, or while the peer grants no
further stream. -/
def openUni (streamLimit : Nat) (connection : QuicConnection) :
    Option QuicConnection :=
  if connection.closed then
    none
  else if connection.uniOpened <
      streamLimit + connection.uniAccepted then
    some { connection with uniOpened := connection.uniOpened + 1 }
  else
    none

/-- `TransportEnds::is_active`; the stream it opens is not used. -/
def isActive (streamLimit : Nat) (connection : QuicConnection) :
    Bool × QuicConnection :=
  match connection.openUni streamLimit with
  | some opened => (true, opened)
  | none => (false, connection)

/-- An answer uses up a stream. -/
theorem isActive_true
    {streamLimit : Nat} {connection : QuicConnection}
    (active : (connection.isActive streamLimit).1 = true) :
    connection.closed = false ∧
      connection.uniOpened < streamLimit + connection.uniAccepted ∧
        (connection.isActive streamLimit).2 =
          { connection with uniOpened := connection.uniOpened + 1 } := by
  unfold isActive openUni at active ⊢
  by_cases isClosed : connection.closed = true
  · simp [isClosed] at active
  · by_cases granted :
        connection.uniOpened < streamLimit + connection.uniAccepted
    · simp [isClosed, granted]
    · simp [isClosed, granted] at active

/-- An open connection does not answer when all streams are used up. -/
theorem isActive_false
    {streamLimit : Nat} {connection : QuicConnection}
    (inactive : (connection.isActive streamLimit).1 = false) :
    (connection.isActive streamLimit).2 = connection ∧
      (connection.closed = false →
        streamLimit + connection.uniAccepted ≤
          connection.uniOpened) := by
  unfold isActive openUni at inactive ⊢
  by_cases isClosed : connection.closed = true
  · simp [isClosed]
  · by_cases granted :
        connection.uniOpened < streamLimit + connection.uniAccepted
    · simp [isClosed, granted] at inactive
    · simp only [isClosed, granted, Bool.false_eq_true, if_false,
        true_and]
      intro _
      exact Nat.not_lt.mp granted

/-- `QuinnSend::send` of the provider calls `open_bi`. -/
def send (connection : QuicConnection) : QuicConnection :=
  { connection with biOpened := connection.biOpened + 1 }

/-- `QuinnRecv::recv` of the client calls `accept_bi`, and nothing of the
client calls `accept_uni`. -/
def recv (connection : QuicConnection) : Option QuicConnection :=
  if connection.biAccepted < connection.biOpened then
    some { connection with biAccepted := connection.biAccepted + 1 }
  else
    none

def close (connection : QuicConnection) : QuicConnection :=
  { connection with closed := true }

end QuicConnection

/-- The service of a provider with the connections to its clients. -/
structure MonitoredService (Endpoint : Type u) (Ends : Type v) where
  service : Service Endpoint Ends
  quic : Ends → QuicConnection

inductive MonitoredEvent (Ends : Type v) where
  | service (event : ServiceEvent Ends)
  | send (ends : Ends)
  | recv (ends : Ends)
  | close (ends : Ends)

namespace MonitoredService

variable {Endpoint : Type u} {Ends : Type v} [DecidableEq Ends]

def start : MonitoredService Endpoint Ends where
  service := Service.start
  quic := fun _ => QuicConnection.fresh

def setQuic (monitored : MonitoredService Endpoint Ends) (ends : Ends)
    (connection : QuicConnection) : MonitoredService Endpoint Ends :=
  { monitored with
    quic := Function.update monitored.quic ends connection }

/-- A step of the service; the answer to a probe is that of `is_active`. -/
def stepService (myId : UInt64) (endpoints : List Endpoint)
    (streamLimit : Ends → Nat)
    (monitored : MonitoredService Endpoint Ends)
    (event : ServiceEvent Ends) :
    Option (MonitoredService Endpoint Ends) :=
  match monitored.service.answeredBy event with
  | some (ends, active) =>
      let (answer, connection) :=
        (monitored.quic ends).isActive (streamLimit ends)
      if active = answer then
        (monitored.service.step myId endpoints event).map fun service =>
          { monitored.setQuic ends connection with service := service }
      else
        none
  | none =>
      (monitored.service.step myId endpoints event).map fun service =>
        { monitored with service := service }

def step (myId : UInt64) (endpoints : List Endpoint)
    (streamLimit : Ends → Nat)
    (monitored : MonitoredService Endpoint Ends) :
    MonitoredEvent Ends → Option (MonitoredService Endpoint Ends)
  | .service event =>
      monitored.stepService myId endpoints streamLimit event
  | .send ends =>
      some (monitored.setQuic ends (monitored.quic ends).send)
  | .recv ends =>
      (monitored.quic ends).recv.map (monitored.setQuic ends)
  | .close ends =>
      some (monitored.setQuic ends (monitored.quic ends).close)

end MonitoredService

/-- The service of the node `myId`; a client grants `streamLimit ends`
unidirectional streams at once. -/
def monitoredSystem {Endpoint : Type u} {Ends : Type v}
    [DecidableEq Ends] (myId : UInt64) (endpoints : List Endpoint)
    (streamLimit : Ends → Nat) :
    TransitionSystem (MonitoredService Endpoint Ends)
      (MonitoredEvent Ends) where
  initial monitored := monitored = MonitoredService.start
  step := MonitoredService.step myId endpoints streamLimit

/-! ## Counting sweeps -/

section Sweeps

variable {Endpoint : Type u} {Ends : Type v} [DecidableEq Ends]

/-- The number of sweeps completed since a connection was pushed. -/
def countSweeps (source : MonitoredService Endpoint Ends)
    (event : MonitoredEvent Ends)
    (_target : MonitoredService Endpoint Ends)
    (sweeps : Ends → Option Nat) : Ends → Option Nat :=
  match event with
  | .service (.steg .release) => fun ends =>
      (sweeps ends).map fun count => count + 1
  | .service inner =>
      match source.service.pushedBy inner with
      | some ends => Function.update sweeps ends (some 0)
      | none => sweeps
  | _ => sweeps

/-- The runs of the service with the sweeps of every connection. -/
def healthSystem (myId : UInt64) (endpoints : List Endpoint)
    (streamLimit : Ends → Nat) :
    TransitionSystem
      (MonitoredService Endpoint Ends × (Ends → Option Nat))
      (MonitoredEvent Ends) :=
  (monitoredSystem myId endpoints streamLimit).observed
    (fun _ => none) countSweeps

/-- What an accept task pushes has not been pushed before. -/
def pushesNewClient
    (state : MonitoredService Endpoint Ends × (Ends → Option Nat))
    (event : MonitoredEvent Ends) : Bool :=
  match event with
  | .service inner =>
      match state.1.service.pushedBy inner with
      | some ends => decide (state.2 ends = none)
      | none => true
  | _ => true

end Sweeps

namespace MonitoredService

variable {Endpoint : Type u} {Ends : Type v} [DecidableEq Ends]
variable {myId : UInt64} {endpoints : List Endpoint}
variable {streamLimit : Ends → Nat}

/-- What a connection has used of its streams after some sweeps: one for
each of them, until none is left and it is evicted. -/
structure Credited (streamLimit : Ends → Nat)
    (service : Service Endpoint Ends) (quic : Ends → QuicConnection)
    (sweeps : Ends → Option Nat) : Prop where
  inStep : Service.InStep (fun ends => sweeps ends ≠ none) service
  unaccepted : ∀ ends, (quic ends).uniAccepted = 0
  unprobed : ∀ ends, sweeps ends = none → (quic ends).uniOpened = 0
  listed :
    ∀ ends count, sweeps ends = some count →
      (quic ends).closed = false → ends ∈ service.connections →
        (quic ends).uniOpened =
            count + (if ends ∈ service.steg.kept then 1 else 0) ∧
          (quic ends).uniOpened ≤ streamLimit ends ∧
            (0 < count → ends ∈ service.contexts)
  evicted :
    ∀ ends count, sweeps ends = some count →
      (quic ends).closed = false → ends ∉ service.connections →
        streamLimit ends <
          count + (if service.vecLocked then 1 else 0)

section Step

variable {monitored target : MonitoredService Endpoint Ends}
variable {sweeps : Ends → Option Nat}

/-- A step of the service that is no probe leaves the connections alone. -/
theorem stepService_of_silent
    {event : ServiceEvent Ends}
    (silent : monitored.service.answeredBy event = none)
    (stepped :
      monitored.stepService myId endpoints streamLimit event =
        some target) :
    ∃ next,
      Service.Moves myId endpoints monitored.service event next ∧
        target = { monitored with service := next } := by
  simp only [stepService, silent] at stepped
  obtain ⟨next, moved, same⟩ := Option.map_eq_some_iff.mp stepped
  exact ⟨next, Service.moves_of_step moved, same.symm⟩

/-- A probe gets the answer of `is_active`. -/
theorem stepService_of_answer
    {event : ServiceEvent Ends} {ends : Ends} {active : Bool}
    (answer : monitored.service.answeredBy event = some (ends, active))
    (stepped :
      monitored.stepService myId endpoints streamLimit event =
        some target) :
    ∃ next,
      Service.Moves myId endpoints monitored.service event next ∧
        active =
            ((monitored.quic ends).isActive (streamLimit ends)).1 ∧
          target =
            { monitored.setQuic ends
                ((monitored.quic ends).isActive (streamLimit ends)).2 with
              service := next } := by
  simp only [stepService, answer] at stepped
  split at stepped
  · rename_i agrees
    obtain ⟨next, moved, same⟩ := Option.map_eq_some_iff.mp stepped
    exact ⟨next, Service.moves_of_step moved, agrees, same.symm⟩
  · cases stepped

end Step

section Credit

variable {service next : Service Endpoint Ends}
variable {quic : Ends → QuicConnection} {sweeps : Ends → Option Nat}

/-- Nothing changes that the credit depends on. -/
private theorem Credited.quiet
    (credited : Credited streamLimit service quic sweeps)
    (sameConnections : next.connections = service.connections)
    (sameContexts : next.contexts = service.contexts)
    (sameKept : next.steg.kept = service.steg.kept)
    (sameLocked : next.vecLocked = service.vecLocked) :
    Credited streamLimit next quic sweeps where
  inStep :=
    credited.inStep.congr sameConnections sameContexts (by
      rw [sameKept]
      exact List.Subset.refl _)
  unaccepted := credited.unaccepted
  unprobed := credited.unprobed
  listed := by
    rw [sameConnections, sameContexts, sameKept]
    exact credited.listed
  evicted := by
    rw [sameConnections, sameLocked]
    exact credited.evicted

private theorem Credited.lockVec
    (credited : Credited streamLimit service quic sweeps)
    (waiting : service.steg = .waiting) :
    Credited streamLimit
      { service with steg := .sweeping [] service.transportEndsVec } quic
      sweeps := by
  have unlocked : service.vecLocked = false := by
    simp [Service.vecLocked, waiting]
  have sameConnections :
      ({ service with
          steg := .sweeping [] service.transportEndsVec } :
        Service Endpoint Ends).connections = service.connections := by
    simp [Service.connections, StegPc.remaining, waiting]
  have noneKept := Service.kept_of_unlocked unlocked
  refine
    { inStep :=
        credited.inStep.congr sameConnections rfl (by simp [StegPc.kept])
      unaccepted := credited.unaccepted
      unprobed := credited.unprobed
      listed := ?_
      evicted := ?_ }
  · rw [sameConnections]
    have before := credited.listed
    rw [noneKept] at before
    exact before
  · rw [sameConnections]
    intro ends count counted isOpen absent
    have before := credited.evicted ends count counted isOpen absent
    rw [unlocked] at before
    exact before.trans_le (Nat.le_add_right _ _)

private theorem Credited.push
    (credited : Credited streamLimit service quic sweeps)
    (index : Nat) (ends : Ends) (isNew : sweeps ends = none)
    (unlocked : service.vecLocked = false)
    (inStep :
      Service.InStep
        (fun other => Function.update sweeps ends (some 0) other ≠ none)
        ({ service.setTask index .finished with
            transportEndsVec := service.transportEndsVec ++ [ends] } :
          Service Endpoint Ends)) :
    Credited streamLimit
      { service.setTask index .finished with
        transportEndsVec := service.transportEndsVec ++ [ends] } quic
      (Function.update sweeps ends (some 0)) := by
  have after := Service.connections_pushed index ends unlocked
  have noneKept := Service.kept_of_unlocked unlocked
  refine
    { inStep := inStep, unaccepted := credited.unaccepted
      unprobed := ?_, listed := ?_, evicted := ?_ }
  · intro other notPushed
    by_cases pushed : other = ends
    · subst pushed
      rw [Function.update_self] at notPushed
      cases notPushed
    · rw [Function.update_of_ne pushed] at notPushed
      exact credited.unprobed other notPushed
  · intro other count counted isOpen member
    by_cases pushed : other = ends
    · subst pushed
      rw [Function.update_self] at counted
      cases counted
      have unused := credited.unprobed other isNew
      have notKept : other ∉ service.steg.kept := by
        rw [noneKept]
        simp
      refine ⟨?_, ?_, by simp⟩
      · exact unused.trans (by simp [Service.setTask, notKept])
      · omega
    · rw [Function.update_of_ne pushed] at counted
      rw [after] at member
      have before : other ∈ service.connections := by
        simpa [pushed] using member
      exact credited.listed other count counted isOpen before
  · intro other count counted isOpen absent
    rw [after] at absent
    by_cases pushed : other = ends
    · subst pushed
      exact False.elim (absent (by simp))
    · rw [Function.update_of_ne pushed] at counted
      refine credited.evicted other count counted isOpen ?_
      intro member
      exact absent (List.mem_append_left [ends] member)

/-- At the end of a sweep those that it has kept have been probed once
more. -/
private theorem Credited.release
    (credited : Credited streamLimit service quic sweeps)
    {kept : List Ends} (sweeping : service.steg = .sweeping kept [])
    (inStep :
      Service.InStep
        (fun ends =>
          (sweeps ends).map (fun count => count + 1) ≠ none)
        ({ service with
            steg := .resting, transportEndsVec := kept } :
          Service Endpoint Ends)) :
    Credited streamLimit
      { service with steg := .resting, transportEndsVec := kept } quic
      fun ends => (sweeps ends).map fun count => count + 1 := by
  have before := Service.connections_of_sweeping sweeping
  rw [List.append_nil] at before
  have stegKept := Service.kept_of_sweeping sweeping
  have locked := Service.vecLocked_of_sweeping sweeping
  refine
    { inStep := inStep, unaccepted := credited.unaccepted
      unprobed := ?_, listed := ?_, evicted := ?_ }
  · intro ends notPushed
    exact credited.unprobed ends (Option.map_eq_none_iff.mp notPushed)
  · intro ends later counted isOpen member
    obtain ⟨count, earlier, same⟩ := Option.map_eq_some_iff.mp counted
    subst same
    change ends ∈ kept at member
    obtain ⟨used, within, _⟩ :=
      credited.listed ends count earlier isOpen (by
        rw [before]
        exact member)
    rw [stegKept, if_pos member] at used
    refine ⟨by simpa [StegPc.kept] using used, within, fun _ => ?_⟩
    exact credited.inStep.kept ends (by rw [stegKept]; exact member)
  · intro ends later counted isOpen absent
    obtain ⟨count, earlier, same⟩ := Option.map_eq_some_iff.mp counted
    subst same
    have gone :=
      credited.evicted ends count earlier isOpen (by
        rw [before]
        exact absent)
    rw [locked] at gone
    exact gone

/-- The next probe of a connection is answered, at the cost of a stream. -/
private theorem Credited.retain
    (credited : Credited streamLimit service quic sweeps)
    {kept rest : List Ends} {ends : Ends}
    (sweeping : service.steg = .sweeping kept (ends :: rest))
    (active : ((quic ends).isActive (streamLimit ends)).1 = true)
    (inStep :
      Service.InStep (fun other => sweeps other ≠ none)
        ({ service with
            steg := .sweeping (kept ++ [ends]) rest
            contexts := insert ends service.contexts } :
          Service Endpoint Ends)) :
    Credited streamLimit
      { service with
        steg := .sweeping (kept ++ [ends]) rest
        contexts := insert ends service.contexts }
      (Function.update quic ends
        ((quic ends).isActive (streamLimit ends)).2)
      sweeps := by
  obtain ⟨stillOpen, granted, opened⟩ :=
    QuicConnection.isActive_true active
  rw [credited.unaccepted ends, Nat.add_zero] at granted
  rw [opened]
  have same :=
    Service.connections_retained (insert ends service.contexts) sweeping
  have locked := Service.vecLocked_of_sweeping sweeping
  have probedMember := Service.probed_mem_connections sweeping
  have stegKept := Service.kept_of_sweeping sweeping
  have notKept := credited.inStep.probed_notKept sweeping
  refine
    { inStep := inStep, unaccepted := ?_, unprobed := ?_, listed := ?_
      evicted := ?_ }
  · intro other
    by_cases probed : other = ends
    · subst probed
      rw [Function.update_self]
      exact credited.unaccepted other
    · rw [Function.update_of_ne probed]
      exact credited.unaccepted other
  · intro other notPushed
    have different : other ≠ ends := by
      intro probed
      rw [probed] at notPushed
      exact credited.inStep.known ends probedMember notPushed
    rw [Function.update_of_ne different]
    exact credited.unprobed other notPushed
  · rw [same]
    intro other count counted isOpen member
    by_cases probed : other = ends
    · subst probed
      obtain ⟨used, _, _⟩ :=
        credited.listed other count counted stillOpen member
      rw [if_neg notKept] at used
      rw [Function.update_self]
      refine ⟨?_, granted, fun _ => Finset.mem_insert_self _ _⟩
      simpa [StegPc.kept] using used
    · rw [Function.update_of_ne probed] at isOpen ⊢
      obtain ⟨used, within, held⟩ :=
        credited.listed other count counted isOpen member
      refine
        ⟨?_, within, fun swept => Finset.mem_insert_of_mem (held swept)⟩
      rw [used, stegKept]
      simp [StegPc.kept, probed]
  · rw [same]
    intro other count counted isOpen absent
    have different : other ≠ ends := by
      intro probed
      rw [probed] at absent
      exact absent probedMember
    rw [Function.update_of_ne different] at isOpen
    have gone := credited.evicted other count counted isOpen absent
    rw [locked] at gone
    exact gone

/-- A connection that does not answer is closed or has no stream left. -/
private theorem Credited.remove
    (credited : Credited streamLimit service quic sweeps)
    {kept rest : List Ends} {ends : Ends}
    (sweeping : service.steg = .sweeping kept (ends :: rest))
    (inactive : ((quic ends).isActive (streamLimit ends)).1 = false)
    (inStep :
      Service.InStep (fun other => sweeps other ≠ none)
        ({ service with
            steg := .sweeping kept rest
            contexts := service.contexts.erase ends } :
          Service Endpoint Ends)) :
    Credited streamLimit
      { service with
        steg := .sweeping kept rest
        contexts := service.contexts.erase ends }
      (Function.update quic ends
        ((quic ends).isActive (streamLimit ends)).2)
      sweeps := by
  obtain ⟨unchanged, exhausted⟩ := QuicConnection.isActive_false inactive
  rw [credited.unaccepted ends, Nat.add_zero] at exhausted
  rw [unchanged, Function.update_eq_self]
  have locked := Service.vecLocked_of_sweeping sweeping
  have probedMember := Service.probed_mem_connections sweeping
  have stegKept := Service.kept_of_sweeping sweeping
  have onlyOnce := credited.inStep.probed_notMem sweeping
  have notKept := credited.inStep.probed_notKept sweeping
  refine
    { inStep := inStep, unaccepted := credited.unaccepted
      unprobed := credited.unprobed, listed := ?_, evicted := ?_ }
  · intro other count counted isOpen member
    change other ∈ kept ++ rest at member
    have different : other ≠ ends := by
      intro probed
      rw [probed] at member
      exact onlyOnce member
    obtain ⟨used, within, held⟩ :=
      credited.listed other count counted isOpen
        (Service.mem_connections_of_remaining sweeping member)
    rw [stegKept] at used
    refine
      ⟨used, within, fun swept =>
        Finset.mem_erase_of_ne_of_mem different (held swept)⟩
  · intro other count counted isOpen absent
    change other ∉ kept ++ rest at absent
    change streamLimit other < count + 1
    by_cases probed : other = ends
    · subst probed
      obtain ⟨used, _, _⟩ :=
        credited.listed other count counted isOpen probedMember
      rw [if_neg notKept] at used
      have full := exhausted isOpen
      omega
    · have gone :=
        credited.evicted other count counted isOpen (by
          rw [Service.connections_of_sweeping sweeping]
          intro member
          apply absent
          simpa [probed] using member)
      rw [locked] at gone
      exact gone

/-- Nothing that a client does gives a unidirectional stream back. -/
private theorem Credited.client
    (credited : Credited streamLimit service quic sweeps) (ends : Ends)
    {connection : QuicConnection}
    (sameOpened : connection.uniOpened = (quic ends).uniOpened)
    (sameAccepted : connection.uniAccepted = (quic ends).uniAccepted)
    (staysClosed :
      connection.closed = false → (quic ends).closed = false) :
    Credited streamLimit service (Function.update quic ends connection)
      sweeps := by
  have opened :
      ∀ other,
        (Function.update quic ends connection other).uniOpened =
          (quic other).uniOpened := by
    intro other
    by_cases acts : other = ends
    · subst acts
      rw [Function.update_self, sameOpened]
    · rw [Function.update_of_ne acts]
  have wasOpen :
      ∀ other,
        (Function.update quic ends connection other).closed = false →
          (quic other).closed = false := by
    intro other isOpen
    by_cases acts : other = ends
    · subst acts
      rw [Function.update_self] at isOpen
      exact staysClosed isOpen
    · rw [Function.update_of_ne acts] at isOpen
      exact isOpen
  refine
    { inStep := credited.inStep, unaccepted := ?_, unprobed := ?_
      listed := ?_, evicted := ?_ }
  · intro other
    by_cases acts : other = ends
    · subst acts
      rw [Function.update_self, sameAccepted]
      exact credited.unaccepted other
    · rw [Function.update_of_ne acts]
      exact credited.unaccepted other
  · intro other notPushed
    rw [opened]
    exact credited.unprobed other notPushed
  · intro other count counted isOpen member
    rw [opened]
    exact credited.listed other count counted (wasOpen other isOpen) member
  · intro other count counted isOpen absent
    exact
      credited.evicted other count counted (wasOpen other isOpen) absent

end Credit

section Run

variable {monitored target : MonitoredService Endpoint Ends}
variable {sweeps : Ends → Option Nat}

/-- A step that probes nothing. -/
private theorem Credited.silent
    {event : ServiceEvent Ends}
    (credited :
      Credited streamLimit monitored.service monitored.quic sweeps)
    (isNew : pushesNewClient (monitored, sweeps) (.service event) = true)
    (noAnswer : monitored.service.answeredBy event = none)
    (stepped :
      monitored.stepService myId endpoints streamLimit event =
        some target) :
    Credited streamLimit target.service target.quic
      (countSweeps monitored (.service event) target sweeps) := by
  obtain ⟨next, moves, same⟩ := stepService_of_silent noAnswer stepped
  subst same
  have fresh :
      ∀ ends, monitored.service.pushedBy event = some ends →
        ¬ sweeps ends ≠ none := by
    intro ends pushes
    simpa [pushesNewClient, pushes] using isNew
  have inStep := credited.inStep.moves fresh moves
  cases moves with
  | storeLeader =>
      exact credited.quiet rfl rfl rfl rfl
  | connection event next moves =>
      cases moves <;> exact credited.quiet rfl rfl rfl rfl
  | task index task event next found moves =>
      cases moves with
      | accept | connect | create =>
          exact credited.quiet rfl rfl rfl rfl
      | push ends pushing unlocked =>
          have pushes :
              monitored.service.pushedBy (.task index .push) =
                some ends := by
            simp [Service.pushedBy, found, pushing]
          have isFirst : sweeps ends = none :=
            not_not.mp (fresh ends pushes)
          simp only [countSweeps, pushes]
          refine credited.push index ends isFirst unlocked ?_
          refine inStep.mono ?_
          intro other known
          by_cases pushed : other = ends
          · subst pushed
            rw [Function.update_self]
            simp
          · rw [Function.update_of_ne pushed]
            refine known.resolve_right ?_
            rw [pushes]
            exact fun same => pushed (Option.some.inj same).symm
  | steg event next moves =>
      have quiet := moves.unprobed
      cases moves with
      | stay =>
          exact credited.quiet rfl rfl rfl rfl
      | enter atHead =>
          obtain ⟨sameConnections, sameContexts⟩ := quiet (by simp)
          refine credited.quiet sameConnections sameContexts ?_ ?_
          · simp [StegPc.kept, atHead]
          · simp [Service.vecLocked, atHead]
      | rest stop resting =>
          obtain ⟨sameConnections, sameContexts⟩ := quiet (by simp)
          refine credited.quiet sameConnections sameContexts ?_ ?_
          · cases stop <;> simp [StegPc.kept, resting]
          · cases stop <;> simp [Service.vecLocked, resting]
      | lockVec waiting =>
          exact credited.lockVec waiting
      | release kept sweeping =>
          refine credited.release sweeping (inStep.mono ?_)
          intro ends known
          have counted := known.resolve_right (by simp [Service.pushedBy])
          simpa using counted
      | retain kept ends rest sweeping | remove kept ends rest sweeping =>
          simp [Service.answeredBy, sweeping] at noAnswer

/-- A probe, answered as `is_active` has it. -/
private theorem Credited.probe
    {event : ServiceEvent Ends} {probed : Ends} {active : Bool}
    (credited :
      Credited streamLimit monitored.service monitored.quic sweeps)
    (answer :
      monitored.service.answeredBy event = some (probed, active))
    (stepped :
      monitored.stepService myId endpoints streamLimit event =
        some target) :
    Credited streamLimit target.service target.quic
      (countSweeps monitored (.service event) target sweeps) := by
  obtain ⟨next, moves, agrees, same⟩ :=
    stepService_of_answer answer stepped
  subst same
  have noPush : monitored.service.pushedBy event = none := by
    unfold Service.answeredBy at answer
    split at answer
    · rfl
    · cases answer
  have inStep :
      Service.InStep (fun ends => sweeps ends ≠ none) next := by
    refine (credited.inStep.moves ?_ moves).mono ?_
    · rw [noPush]
      simp
    · rw [noPush]
      simp
  cases moves with
  | storeLeader | connection =>
      cases answer
  | task =>
      cases answer
  | steg event next moves =>
      cases moves with
      | stay | enter | lockVec | release | rest =>
          cases answer
      | retain kept ends rest sweeping =>
          simp only [Service.answeredBy, sweeping, Option.some.injEq,
            Prod.mk.injEq] at answer
          obtain ⟨rfl, rfl⟩ := answer
          exact credited.retain sweeping agrees.symm inStep
      | remove kept ends rest sweeping =>
          simp only [Service.answeredBy, sweeping, Option.some.injEq,
            Prod.mk.injEq] at answer
          obtain ⟨rfl, rfl⟩ := answer
          exact credited.remove sweeping agrees.symm inStep

theorem Credited.step
    {event : MonitoredEvent Ends}
    (credited :
      Credited streamLimit monitored.service monitored.quic sweeps)
    (isNew : pushesNewClient (monitored, sweeps) event = true)
    (stepped :
      monitored.step myId endpoints streamLimit event = some target) :
    Credited streamLimit target.service target.quic
      (countSweeps monitored event target sweeps) := by
  cases event with
  | service event =>
      cases answer : monitored.service.answeredBy event with
      | none =>
          exact credited.silent isNew answer stepped
      | some told =>
          exact credited.probe answer stepped
  | send ends =>
      cases stepped
      exact credited.client ends rfl rfl id
  | recv ends =>
      obtain ⟨connection, received, same⟩ :=
        Option.map_eq_some_iff.mp stepped
      subst same
      unfold QuicConnection.recv at received
      split at received
      · cases received
        exact credited.client ends rfl rfl id
      · cases received
  | close ends =>
      cases stepped
      exact credited.client ends rfl rfl (by simp [QuicConnection.close])

theorem credited_of_reachableWhere
    (reachable :
      (healthSystem myId endpoints streamLimit).ReachableWhere
        (fun source event => pushesNewClient source event = true)
        (monitored, sweeps)) :
    Credited streamLimit monitored.service monitored.quic sweeps := by
  have begins :
      ∀ source : MonitoredService Endpoint Ends × (Ends → Option Nat),
        (healthSystem myId endpoints streamLimit).initial source →
          Credited streamLimit source.1.service source.1.quic
            source.2 := by
    rintro ⟨source, counts⟩ ⟨fresh, noCounts⟩
    have atStart : source = MonitoredService.start := fresh
    have noneCounted : counts = fun _ => none := noCounts
    subst atStart noneCounted
    refine
      { inStep := Service.inStep_start _, unaccepted := fun _ => rfl
        unprobed := fun _ _ => rfl, listed := ?_, evicted := ?_ }
    · intro ends count counted
      cases counted
    · intro ends count counted
      cases counted
  have steps :
      ∀ (source : MonitoredService Endpoint Ends × (Ends → Option Nat))
          event next,
        Credited streamLimit source.1.service source.1.quic source.2 →
          pushesNewClient source event = true →
            (healthSystem myId endpoints streamLimit).step source event =
                some next →
              Credited streamLimit next.1.service next.1.quic
                next.2 := by
    intro source event next credited isNew stepped
    obtain ⟨monitoredAfter, moved, rfl⟩ :=
      TransitionSystem.observed_step_eq_some stepped
    exact credited.step isNew moved
  exact reachable.invariant begins steps

/-- Between two sweeps, after any positive number of sweeps since it was
pushed, an open connection is in the vector and has its context if and only
if that number is within the streams its client grants. -/
theorem live_client_kept_iff
    {ends : Ends} {count : Nat}
    (reachable :
      (healthSystem myId endpoints streamLimit).ReachableWhere
        (fun source event => pushesNewClient source event = true)
        (monitored, sweeps))
    (between : monitored.service.vecLocked = false)
    (isOpen : (monitored.quic ends).closed = false)
    (counted : sweeps ends = some count) (swept : 0 < count) :
    (ends ∈ monitored.service.transportEndsVec ∧
        ends ∈ monitored.service.contexts) ↔
      count ≤ streamLimit ends := by
  have credited := credited_of_reachableWhere reachable
  have connections := Service.connections_of_unlocked between
  have noneKept := Service.kept_of_unlocked between
  constructor
  · rintro ⟨member, _⟩
    rw [← connections] at member
    obtain ⟨used, within, _⟩ :=
      credited.listed ends count counted isOpen member
    rw [noneKept] at used
    simp only [List.not_mem_nil, if_false, Nat.add_zero] at used
    omega
  · intro within
    have member : ends ∈ monitored.service.connections := by
      by_contra absent
      have gone := credited.evicted ends count counted isOpen absent
      rw [between] at gone
      simp only [Bool.false_eq_true, if_false, Nat.add_zero] at gone
      omega
    obtain ⟨_, _, held⟩ :=
      credited.listed ends count counted isOpen member
    rw [connections] at member
    exact ⟨member, held swept⟩

end Run

end MonitoredService

/-! ## A client that grants one stream -/

/-- Node 2 is made leader and accepts client 7. -/
def admitClient : List (ServiceEvent Nat) :=
  [.storeLeader 2, .connection .check, .connection (.offer true),
   .task 0 (.accepted true), .task 0 (.connected true),
   .task 0 (.created (some 7)), .task 0 .push]

/-- One sweep over client 7. -/
def sweepClient (active : Bool) : List (ServiceEvent Nat) :=
  [.steg .check, .steg .lockVec, .steg (.probe active), .steg .release,
   .steg (.rest false)]

/-- The provider after some of its steps, with a client that grants one
stream. -/
def replayHealth (events : List (ServiceEvent Nat)) :
    Option (MonitoredService Unit Nat × (Nat → Option Nat)) :=
  (healthSystem 2 [()] fun _ => 1).checkedRun pushesNewClient
    (MonitoredService.start, fun _ => none)
    (events.map MonitoredEvent.service)

theorem reachable_of_replayHealth
    {events : List (ServiceEvent Nat)}
    {state : MonitoredService Unit Nat × (Nat → Option Nat)}
    (replay : replayHealth events = some state) :
    (healthSystem 2 [()] fun _ => 1).ReachableWhere
      (fun source event => pushesNewClient source event = true) state :=
  ⟨(MonitoredService.start, fun _ => none), ⟨rfl, rfl⟩,
    TransitionSystem.runsWhere_of_checkedRun
      (fun _ _ checked => checked) replay⟩

def sweptOnce : MonitoredService Unit Nat × (Nat → Option Nat) :=
  (replayHealth (admitClient ++ sweepClient true)).get (by decide +kernel)

theorem sweptOnce_reachable :
    (healthSystem 2 [()] fun _ => 1).ReachableWhere
      (fun source event => pushesNewClient source event = true)
      sweptOnce :=
  reachable_of_replayHealth (Option.some_get _).symm

theorem live_client_kept_iff_once :
    (7 ∈ sweptOnce.1.service.transportEndsVec ∧
        7 ∈ sweptOnce.1.service.contexts) ↔
      1 ≤ 1 := by
  have reachable := sweptOnce_reachable
  have between : sweptOnce.1.service.vecLocked = false := by
    decide +kernel
  have isOpen : (sweptOnce.1.quic 7).closed = false := by decide +kernel
  have counted : sweptOnce.2 7 = some 1 := by decide +kernel
  exact
    MonitoredService.live_client_kept_iff reachable between isOpen counted
      Nat.one_pos

def sweptTwice : MonitoredService Unit Nat × (Nat → Option Nat) :=
  (replayHealth
    (admitClient ++ sweepClient true ++ sweepClient false)).get
      (by decide +kernel)

/-- The second sweep evicts the client, although it is still there. -/
theorem live_client_evicted :
    (healthSystem 2 [()] fun _ => 1).ReachableWhere
        (fun source event => pushesNewClient source event = true)
        sweptTwice ∧
      (sweptTwice.1.quic 7).closed = false ∧
        sweptTwice.2 7 = some 2 ∧
          7 ∉ sweptTwice.1.service.transportEndsVec ∧
            7 ∉ sweptTwice.1.service.contexts :=
  ⟨reachable_of_replayHealth (Option.some_get _).symm,
    by decide +kernel, by decide +kernel, by decide +kernel,
    by decide +kernel⟩

end CloudP2P.Provider
