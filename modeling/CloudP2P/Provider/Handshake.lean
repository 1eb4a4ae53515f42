import CloudP2P.TransitionSystem
import Mathlib.Logic.Function.Basic

/-!
# The handshake of `create`

`create` of the provider binds a socket to port 0 to learn a free port, drops
it, sends the port to the client and binds it again; `create` of the client
connects to the port that it is sent.  Any number of pairs of the two run at
the same time, next to the other programs of the host.

Nothing holds a port between the two binds.
-/

universe u v

namespace CloudP2P.Provider

/-- Where `create` of the provider is.  `client` is the one whose connection
`endpoint.accept` gave; in `done` it is stored in the `TransportEnds`, and in
`closed` that connection has been closed. -/
inductive CreatePc (Index : Type u) (Port : Type v) where
  | starting
  | probed (port : Port)
  | released (port : Port)
  | announced (port : Port)
  | listening (port : Port)
  | incoming (port : Port) (client : Index)
  | done (port : Port) (client : Index)
  | closed (client : Index)
  | failed
  deriving DecidableEq

/-- Where `create` of a client is, its first connection being there. -/
inductive ClientPc (Port : Type v) where
  | waiting
  | connecting (port : Port)
  | ended
  deriving DecidableEq

/-- Who has a port bound. -/
inductive Owner (Index : Type u) where
  | call (index : Index)
  | other
  deriving DecidableEq

/-- The calls of `create`, each with the client it was called for: `client`
is where that one is, and `mail` the address on its way to it. -/
structure Handshakes (Index : Type u) (Port : Type v) where
  create : Index → CreatePc Index Port
  client : Index → ClientPc Port
  mail : Index → Option Port
  sockets : Port → Option (Owner Index)

inductive HandshakeEvent (Index : Type u) (Port : Type v) where
  /-- `UdpSocket::bind` to port 0 -/
  | probe (index : Index) (port : Port)
  | drop (index : Index)
  | announce (index : Index)
  /-- `make_server_endpoint(actual_addr).unwrap()` -/
  | bind (index : Index)
  /-- `endpoint.accept().await` -/
  | accept (index client : Index)
  | establish (index : Index)
  /-- an error that `create` returns -/
  | fail (index : Index)
  | close (index : Index)
  /-- the client reads the address and connects to it -/
  | hear (index : Index)
  | giveUp (index : Index)
  | otherBind (port : Port)
  | otherClose (port : Port)

namespace Handshakes

variable {Index : Type u} {Port : Type v}
variable [DecidableEq Index] [DecidableEq Port]

def setCreate (state : Handshakes Index Port) (index : Index)
    (pc : CreatePc Index Port) : Handshakes Index Port :=
  { state with create := Function.update state.create index pc }

def setClient (state : Handshakes Index Port) (index : Index)
    (pc : ClientPc Port) : Handshakes Index Port :=
  { state with client := Function.update state.client index pc }

def setMail (state : Handshakes Index Port) (index : Index)
    (address : Option Port) : Handshakes Index Port :=
  { state with mail := Function.update state.mail index address }

def setSocket (state : Handshakes Index Port) (port : Port)
    (owner : Option (Owner Index)) : Handshakes Index Port :=
  { state with sockets := Function.update state.sockets port owner }

def step (state : Handshakes Index Port) :
    HandshakeEvent Index Port → Option (Handshakes Index Port)
  | .probe index port =>
      match state.create index, state.sockets port with
      | .starting, none =>
          some
            ((state.setCreate index (.probed port)).setSocket port
              (some (.call index)))
      | _, _ => none
  | .drop index =>
      match state.create index with
      | .probed port =>
          some
            ((state.setCreate index (.released port)).setSocket port none)
      | _ => none
  | .announce index =>
      match state.create index with
      | .released port =>
          some
            ((state.setCreate index (.announced port)).setMail index
              (some port))
      | _ => none
  | .bind index =>
      match state.create index with
      | .announced port =>
          match state.sockets port with
          | none =>
              some
                ((state.setCreate index (.listening port)).setSocket port
                  (some (.call index)))
          -- `unwrap` panics
          | some _ => some (state.setCreate index .failed)
      | _ => none
  | .accept index client =>
      -- `accept` takes whoever connects to the port, not its own client only
      match state.create index with
      | .listening port =>
          if state.client client = .connecting port then
            some (state.setCreate index (.incoming port client))
          else
            none
      | _ => none
  | .establish index =>
      match state.create index with
      | .incoming port client =>
          if state.client client = .connecting port then
            some
              ((state.setCreate index (.done port client)).setClient client
                .ended)
          else
            none
      | _ => none
  | .fail index =>
      match state.create index with
      | .starting | .released _ => some (state.setCreate index .failed)
      | .probed port | .incoming port _ =>
          some ((state.setCreate index .failed).setSocket port none)
      | _ => none
  | .close index =>
      match state.create index with
      | .done port client =>
          some
            ((state.setCreate index (.closed client)).setSocket port none)
      | _ => none
  | .hear index =>
      match state.mail index, state.client index with
      | some port, .waiting =>
          some
            ((state.setMail index none).setClient index (.connecting port))
      | _, _ => none
  | .giveUp index => some (state.setClient index .ended)
  | .otherBind port =>
      match state.sockets port with
      | none => some (state.setSocket port (some .other))
      | some _ => none
  | .otherClose port =>
      match state.sockets port with
      | some .other => some (state.setSocket port none)
      | _ => none

end Handshakes

/-- At first only other programs have ports bound. -/
def handshakes (Index : Type u) (Port : Type v)
    [DecidableEq Index] [DecidableEq Port] :
    TransitionSystem (Handshakes Index Port)
      (HandshakeEvent Index Port) where
  initial state :=
    (∀ index, state.create index = .starting) ∧
      (∀ index, state.client index = .waiting) ∧
        (∀ index, state.mail index = none) ∧
          ∀ port index, state.sockets port ≠ some (.call index)
  step := Handshakes.step

namespace CreatePc

variable {Index : Type u} {Port : Type v}

/-- The port that the call has bound. -/
def held : CreatePc Index Port → Option Port
  | .probed port | .listening port | .incoming port _ | .done port _ =>
      some port
  | _ => none

/-- The port that the call has drawn, until its connection is there. -/
def drawn : CreatePc Index Port → Option Port
  | .probed port | .released port | .announced port | .listening port
  | .incoming port _ => some port
  | _ => none

/-- The client that the call has accepted. -/
def peer : CreatePc Index Port → Option Index
  | .incoming _ client | .done _ client | .closed client => some client
  | _ => none

/-- The client whose connection is in the `TransportEnds`. -/
def stored : CreatePc Index Port → Option Index
  | .done _ client | .closed client => some client
  | _ => none

/-- The call has announced `port` and has not accepted a client. -/
def Awaits (pc : CreatePc Index Port) (port : Port) : Prop :=
  pc = .announced port ∨ pc = .listening port

theorem peer_of_stored
    {pc : CreatePc Index Port} {client : Index}
    (isStored : pc.stored = some client) :
    pc.peer = some client := by
  cases pc with
  | done port other | closed other =>
      exact isStored
  | starting | probed | released | announced | listening | incoming
  | failed =>
      cases isStored

theorem drawn_of_awaits
    {pc : CreatePc Index Port} {port : Port} (awaits : pc.Awaits port) :
    pc.drawn = some port := by
  rcases awaits with announced | listening
  · rw [announced]
    rfl
  · rw [listening]
    rfl

end CreatePc

namespace Handshakes

variable {Index : Type u} {Port : Type v}

/-- The client has been sent the port, and has neither a connection nor given
up. -/
def ToldPort (state : Handshakes Index Port) (index : Index) (port : Port) :
    Prop :=
  state.client index = .waiting ∧ state.mail index = some port ∨
    state.client index = .connecting port

/-- Between its two binds `create` relies on the port, and its client from
the time that it is sent the port. -/
def Reserves (state : Handshakes Index Port) (index : Index) (port : Port) :
    Prop :=
  state.create index = .released port ∨
    state.create index = .announced port ∨ state.ToldPort index port

/-- The call or its client has to do with the port. -/
def Uses (state : Handshakes Index Port) (index : Index) (port : Port) :
    Prop :=
  (state.create index).drawn = some port ∨ state.ToldPort index port

/-- A port that is used is reserved or bound. -/
theorem Uses.reserves_or_held
    {state : Handshakes Index Port} {index : Index} {port : Port}
    (uses : state.Uses index port) :
    state.Reserves index port ∨
      (state.create index).held = some port := by
  rcases uses with drawn | told
  · cases pc : state.create index with
    | probed other | listening other | incoming other client =>
        rw [pc] at drawn
        exact Or.inr drawn
    | released other =>
        rw [pc] at drawn
        cases drawn
        exact Or.inl (Or.inl pc)
    | announced other =>
        rw [pc] at drawn
        cases drawn
        exact Or.inl (Or.inr (Or.inl pc))
    | starting | done | closed | failed =>
        rw [pc] at drawn
        cases drawn
  · exact Or.inl (Or.inr (Or.inr told))

variable [DecidableEq Index]
variable {state target : Handshakes Index Port}
variable {index other : Index} {port : Port}

theorem Uses.of_setCreate
    {pc : CreatePc Index Port}
    (uses : (state.setCreate index pc).Uses other port) :
    state.Uses other port ∨ other = index ∧ pc.drawn = some port := by
  rcases uses with drawn | unchanged
  · by_cases same : other = index
    · subst same
      simp only [setCreate, Function.update_self] at drawn
      exact Or.inr ⟨rfl, drawn⟩
    · simp only [setCreate, Function.update_of_ne same] at drawn
      exact Or.inl (Or.inl drawn)
  · exact Or.inl (Or.inr unchanged)

theorem Uses.of_setMail
    {address : Option Port}
    (uses : (state.setMail index address).Uses other port) :
    state.Uses other port ∨ other = index ∧ address = some port := by
  rcases uses with drawn | ⟨waiting, sent⟩ | connects
  · exact Or.inl (Or.inl drawn)
  · by_cases same : other = index
    · subst same
      simp only [setMail, Function.update_self] at sent
      exact Or.inr ⟨rfl, sent⟩
    · simp only [setMail, Function.update_of_ne same] at sent
      exact Or.inl (Or.inr (Or.inl ⟨waiting, sent⟩))
  · exact Or.inl (Or.inr (Or.inr connects))

theorem Uses.of_setClient
    {pc : ClientPc Port}
    (uses : (state.setClient index pc).Uses other port)
    (notWaiting : pc ≠ .waiting) :
    state.Uses other port ∨ other = index ∧ pc = .connecting port := by
  by_cases same : other = index
  · subst same
    simp only [setClient, Uses, ToldPort, Function.update_self] at uses
    rcases uses with drawn | ⟨waiting, _⟩ | connects
    · exact Or.inl (Or.inl drawn)
    · exact absurd waiting notWaiting
    · exact Or.inr ⟨rfl, connects⟩
  · simp only [setClient, Uses, ToldPort, Function.update_of_ne same] at uses
    exact Or.inl uses

/-- A call that goes on with its port uses no other one. -/
theorem Uses.of_setCreate_kept
    {pc : CreatePc Index Port}
    (uses : (state.setCreate index pc).Uses other port)
    (kept : (state.create index).drawn = pc.drawn) :
    state.Uses other port := by
  rcases uses.of_setCreate with before | ⟨same, drawn⟩
  · exact before
  · subst same
    exact Or.inl (kept.trans drawn)

theorem Uses.of_setCreate_ended
    {pc : CreatePc Index Port}
    (uses : (state.setCreate index pc).Uses other port)
    (ended : pc.drawn = none) :
    state.Uses other port := by
  rcases uses.of_setCreate with before | ⟨_, drawn⟩
  · exact before
  · rw [ended] at drawn
    cases drawn

/-! ## What a step can do -/

variable [DecidableEq Port] {event : HandshakeEvent Index Port}

inductive Moves (state : Handshakes Index Port) :
    HandshakeEvent Index Port → Handshakes Index Port → Prop where
  | probe (index : Index) (port : Port)
      (starts : state.create index = .starting)
      (unbound : state.sockets port = none) :
      Moves state (.probe index port)
        ((state.setCreate index (.probed port)).setSocket port
          (some (.call index)))
  | drop (index : Index) (port : Port)
      (probed : state.create index = .probed port) :
      Moves state (.drop index)
        ((state.setCreate index (.released port)).setSocket port none)
  | announce (index : Index) (port : Port)
      (released : state.create index = .released port) :
      Moves state (.announce index)
        ((state.setCreate index (.announced port)).setMail index
          (some port))
  | bind (index : Index) (port : Port)
      (announced : state.create index = .announced port)
      (unbound : state.sockets port = none) :
      Moves state (.bind index)
        ((state.setCreate index (.listening port)).setSocket port
          (some (.call index)))
  | bindFails (index : Index) (port : Port)
      (announced : state.create index = .announced port) :
      Moves state (.bind index) (state.setCreate index .failed)
  | accept (index client : Index) (port : Port)
      (listening : state.create index = .listening port)
      (connects : state.client client = .connecting port) :
      Moves state (.accept index client)
        (state.setCreate index (.incoming port client))
  | establish (index client : Index) (port : Port)
      (incoming : state.create index = .incoming port client) :
      Moves state (.establish index)
        ((state.setCreate index (.done port client)).setClient client
          .ended)
  | fail (index : Index) (unbound : (state.create index).held = none) :
      Moves state (.fail index) (state.setCreate index .failed)
  | failBound (index : Index) (port : Port)
      (held : (state.create index).held = some port) :
      Moves state (.fail index)
        ((state.setCreate index .failed).setSocket port none)
  | close (index client : Index) (port : Port)
      (done : state.create index = .done port client) :
      Moves state (.close index)
        ((state.setCreate index (.closed client)).setSocket port none)
  | hear (index : Index) (port : Port)
      (sent : state.mail index = some port)
      (waiting : state.client index = .waiting) :
      Moves state (.hear index)
        ((state.setMail index none).setClient index (.connecting port))
  | giveUp (index : Index) :
      Moves state (.giveUp index) (state.setClient index .ended)
  | otherBind (port : Port) (unbound : state.sockets port = none) :
      Moves state (.otherBind port) (state.setSocket port (some .other))
  | otherClose (port : Port)
      (bound : state.sockets port = some .other) :
      Moves state (.otherClose port) (state.setSocket port none)

theorem moves_of_step (stepped : state.step event = some target) :
    Moves state event target := by
  cases event with
  | probe index port =>
      simp only [step] at stepped
      split at stepped
      · rename_i starts unbound
        cases stepped
        exact .probe index port starts unbound
      · cases stepped
  | drop index =>
      simp only [step] at stepped
      split at stepped
      · rename_i port probed
        cases stepped
        exact .drop index port probed
      · cases stepped
  | announce index =>
      simp only [step] at stepped
      split at stepped
      · rename_i port released
        cases stepped
        exact .announce index port released
      · cases stepped
  | bind index =>
      simp only [step] at stepped
      split at stepped
      · rename_i port announced
        split at stepped
        · rename_i unbound
          cases stepped
          exact .bind index port announced unbound
        · cases stepped
          exact .bindFails index port announced
      · cases stepped
  | accept index client =>
      simp only [step] at stepped
      split at stepped
      · rename_i port listening
        split at stepped
        · rename_i connects
          cases stepped
          exact .accept index client port listening connects
        · cases stepped
      · cases stepped
  | establish index =>
      simp only [step] at stepped
      split at stepped
      · rename_i port client incoming
        split at stepped
        · cases stepped
          exact .establish index client port incoming
        · cases stepped
      · cases stepped
  | fail index =>
      simp only [step] at stepped
      split at stepped
      · rename_i starts
        cases stepped
        exact .fail index (by rw [starts]; rfl)
      · rename_i port released
        cases stepped
        exact .fail index (by rw [released]; rfl)
      · rename_i port probed
        cases stepped
        exact .failBound index port (by rw [probed]; rfl)
      · rename_i port client incoming
        cases stepped
        exact .failBound index port (by rw [incoming]; rfl)
      · cases stepped
  | close index =>
      simp only [step] at stepped
      split at stepped
      · rename_i port client done
        cases stepped
        exact .close index client port done
      · cases stepped
  | hear index =>
      simp only [step] at stepped
      split at stepped
      · rename_i port sent waiting
        cases stepped
        exact .hear index port sent waiting
      · cases stepped
  | giveUp index =>
      cases stepped
      exact .giveUp index
  | otherBind port =>
      simp only [step] at stepped
      split at stepped
      · rename_i unbound
        cases stepped
        exact .otherBind port unbound
      · cases stepped
  | otherClose port =>
      simp only [step] at stepped
      split at stepped
      · rename_i bound
        cases stepped
        exact .otherClose port bound
      · cases stepped

/-- Only a probe makes a call use a port. -/
theorem Moves.uses
    (moves : Moves state event target) (uses : target.Uses other port) :
    state.Uses other port ∨ event = .probe other port := by
  cases moves with
  | probe index drawn starts unbound =>
      rcases Uses.of_setCreate uses with before | ⟨same, isDrawn⟩
      · exact Or.inl before
      · cases isDrawn
        rw [same]
        exact Or.inr rfl
  | drop index drawn pc | bind index drawn pc | accept index _ drawn pc =>
      have kept : (state.create index).drawn = some drawn := by
        rw [pc]
        rfl
      exact Or.inl (Uses.of_setCreate_kept uses kept)
  | announce index drawn released =>
      have kept : (state.create index).drawn = some drawn := by
        rw [released]
        rfl
      rcases Uses.of_setMail uses with before | ⟨same, sent⟩
      · exact Or.inl (before.of_setCreate_kept kept)
      · cases sent
        subst same
        exact Or.inl (Or.inl kept)
  | bindFails | fail | failBound | close =>
      exact Or.inl (Uses.of_setCreate_ended uses rfl)
  | establish index client drawn incoming =>
      rcases Uses.of_setClient uses nofun with before | ⟨_, isConnecting⟩
      · exact Or.inl (before.of_setCreate_ended rfl)
      · cases isConnecting
  | hear index drawn sent waiting =>
      rcases Uses.of_setClient uses nofun with before | ⟨same, isConnecting⟩
      · rcases before.of_setMail with earlier | ⟨_, cleared⟩
        · exact Or.inl earlier
        · cases cleared
      · cases isConnecting
        subst same
        exact Or.inl (Or.inr (Or.inl ⟨waiting, sent⟩))
  | giveUp index =>
      rcases Uses.of_setClient uses nofun with before | ⟨_, isConnecting⟩
      · exact Or.inl before
      · cases isConnecting
  | otherBind | otherClose =>
      exact Or.inl uses

/-- What a call has bound, the host has noted as bound by it. -/
def Bound (state : Handshakes Index Port) : Prop :=
  ∀ index port, (state.create index).held = some port →
    state.sockets port = some (.call index)

omit [DecidableEq Port] in
theorem Bound.setCreate
    (bound : state.Bound) {pc : CreatePc Index Port}
    (kept : pc.held = (state.create index).held ∨ pc.held = none) :
    (state.setCreate index pc).Bound := by
  intro other port held
  by_cases same : other = index
  · subst same
    simp only [Handshakes.setCreate, Function.update_self] at held
    rcases kept with kept | released
    · exact bound other port (kept ▸ held)
    · rw [released] at held
      cases held
  · simp only [Handshakes.setCreate, Function.update_of_ne same] at held
    exact bound other port held

/-- A bind that succeeds. -/
theorem Bound.acquire
    (bound : state.Bound) (unbound : state.sockets port = none)
    {pc : CreatePc Index Port} (acquired : pc.held = some port) :
    ((state.setCreate index pc).setSocket port
      (some (.call index))).Bound := by
  intro other tested held
  simp only [Handshakes.setCreate, setSocket] at held ⊢
  by_cases same : other = index
  · subst same
    rw [Function.update_self, acquired] at held
    cases held
    exact Function.update_self _ _ _
  · rw [Function.update_of_ne same] at held
    have owned := bound other tested held
    have different : tested ≠ port := by
      intro samePort
      rw [samePort, unbound] at owned
      cases owned
    rw [Function.update_of_ne different]
    exact owned

/-- A call closes its socket. -/
theorem Bound.release
    (bound : state.Bound) (held : (state.create index).held = some port)
    {pc : CreatePc Index Port} (released : pc.held = none) :
    ((state.setCreate index pc).setSocket port none).Bound := by
  intro other tested otherHeld
  simp only [Handshakes.setCreate, setSocket] at otherHeld ⊢
  by_cases same : other = index
  · subst same
    rw [Function.update_self, released] at otherHeld
    cases otherHeld
  · rw [Function.update_of_ne same] at otherHeld
    have owned := bound other tested otherHeld
    have different : tested ≠ port := by
      intro samePort
      rw [samePort, bound index port held] at owned
      cases owned
      exact same rfl
    rw [Function.update_of_ne different]
    exact owned

omit [DecidableEq Index] in
/-- Another program binds a port or closes its socket. -/
theorem Bound.setSocket
    (bound : state.Bound)
    (notCall : ∀ index, state.sockets port ≠ some (.call index))
    (owner : Option (Owner Index)) :
    (state.setSocket port owner).Bound := by
  intro index tested held
  have owned := bound index tested held
  have different : tested ≠ port := by
    intro samePort
    exact notCall index (samePort ▸ owned)
  simp only [Handshakes.setSocket, Function.update_of_ne different]
  exact owned

theorem Bound.step
    (bound : state.Bound) (moves : Moves state event target) :
    target.Bound := by
  cases moves with
  | probe index drawn starts unbound =>
      exact bound.acquire unbound rfl
  | bind index drawn announced unbound =>
      exact bound.acquire unbound rfl
  | drop index drawn probed =>
      exact bound.release (by rw [probed]; rfl) rfl
  | close index client drawn done =>
      exact bound.release (by rw [done]; rfl) rfl
  | failBound index drawn held =>
      exact bound.release held rfl
  | announce index drawn released =>
      exact bound.setCreate (Or.inr rfl)
  | bindFails | fail =>
      exact bound.setCreate (Or.inr rfl)
  | accept index client drawn listening connects =>
      exact bound.setCreate (Or.inl (by rw [listening]; rfl))
  | establish index client drawn incoming =>
      exact bound.setCreate (Or.inl (by rw [incoming]; rfl))
  | hear | giveUp =>
      exact bound
  | otherBind drawn unbound =>
      refine bound.setSocket ?_ _
      intro index
      rw [unbound]
      nofun
  | otherClose drawn isOther =>
      refine bound.setSocket ?_ _
      intro index
      rw [isOther]
      nofun

omit [DecidableEq Port] in
theorem peer_of_setCreate
    {pc : CreatePc Index Port} {client : Index}
    (accepted :
      ((state.setCreate index pc).create other).peer = some client) :
    (state.create other).peer = some client ∨
      other = index ∧ pc.peer = some client := by
  by_cases same : other = index
  · subst same
    simp only [setCreate, Function.update_self] at accepted
    exact Or.inr ⟨rfl, accepted⟩
  · simp only [setCreate, Function.update_of_ne same] at accepted
    exact Or.inl accepted

/-- A call accepts a client that uses its port. -/
theorem Moves.peer
    (moves : Moves state event target) {client : Index}
    (accepted : (target.create other).peer = some client) :
    (state.create other).peer = some client ∨
      ∃ port, state.Uses other port ∧ state.Uses client port := by
  cases moves with
  | accept index accepts drawn listening connects =>
      rcases peer_of_setCreate accepted with before | ⟨same, isPeer⟩
      · exact Or.inl before
      · cases isPeer
        subst same
        refine Or.inr ⟨drawn, Or.inl ?_, Or.inr (Or.inr connects)⟩
        rw [listening]
        rfl
  | establish index connected drawn pc | close index connected drawn pc =>
      rcases peer_of_setCreate accepted with before | ⟨same, isPeer⟩
      · exact Or.inl before
      · subst same
        rw [pc]
        exact Or.inl isPeer
  | probe | drop | announce | bind | bindFails | fail | failBound =>
      rcases peer_of_setCreate accepted with before | ⟨_, isPeer⟩
      · exact Or.inl before
      · cases isPeer
  | hear | giveUp | otherBind | otherClose =>
      exact Or.inl accepted

/-! ## Ports that are drawn apart -/

/-- The host draws no port that another call, or its client, relies on. -/
def DrawnApart (state : Handshakes Index Port) :
    HandshakeEvent Index Port → Prop
  | .probe index port =>
      ∀ other, other ≠ index → ¬ state.Reserves other port
  | _ => True

/-- The invariant of the runs whose ports are drawn apart. -/
structure Apart (state : Handshakes Index Port) : Prop where
  bound : state.Bound
  alone :
    ∀ first second port, state.Uses first port →
      state.Uses second port → first = second
  own :
    ∀ index client, (state.create index).peer = some client →
      client = index

/-- No other call uses the port of a probe. -/
theorem Apart.not_uses
    (apart : state.Apart) (drawnApart : state.DrawnApart (.probe index port))
    (moves : Moves state (.probe index port) target)
    (uses : state.Uses other port) :
    other = index := by
  cases moves with
  | probe index drawn starts unbound =>
      by_contra different
      rcases uses.reserves_or_held with reserves | held
      · exact drawnApart other different reserves
      · have owned := apart.bound other port held
        rw [unbound] at owned
        cases owned

theorem Apart.step
    (apart : state.Apart) (drawnApart : state.DrawnApart event)
    (moves : Moves state event target) :
    target.Apart where
  bound := apart.bound.step moves
  alone := by
    intro first second port firstUses secondUses
    rcases moves.uses firstUses with firstBefore | firstProbes
    · rcases moves.uses secondUses with secondBefore | secondProbes
      · exact apart.alone first second port firstBefore secondBefore
      · subst secondProbes
        exact apart.not_uses drawnApart moves firstBefore
    · subst firstProbes
      rcases moves.uses secondUses with secondBefore | secondProbes
      · exact (apart.not_uses drawnApart moves secondBefore).symm
      · cases secondProbes
        rfl
  own := by
    intro index client accepted
    rcases moves.peer accepted with before | ⟨port, uses, clientUses⟩
    · exact apart.own index client before
    · exact apart.alone client index port clientUses uses

theorem apart_of_initial
    (initial : (handshakes Index Port).initial state) :
    state.Apart := by
  obtain ⟨starting, waiting, noMail, _⟩ := initial
  have unused : ∀ index port, ¬ state.Uses index port := by
    rintro index port (drawn | ⟨_, sent⟩ | connects)
    · rw [starting index] at drawn
      cases drawn
    · rw [noMail index] at sent
      cases sent
    · rw [waiting index] at connects
      cases connects
  refine ⟨?_, ?_, ?_⟩
  · intro index port held
    rw [starting index] at held
    cases held
  · intro first second port uses
    exact absurd uses (unused first port)
  · intro index client accepted
    rw [starting index] at accepted
    cases accepted

theorem apart_of_reachableWhere
    (reached :
      (handshakes Index Port).ReachableWhere DrawnApart state) :
    state.Apart :=
  reached.invariant (fun _ => apart_of_initial)
    fun _ _ _ apart drawnApart stepped =>
      apart.step drawnApart (moves_of_step stepped)

/-- As long as the host draws ports apart, what a call stores is the
connection of its own client, and no two calls wait at one address. -/
theorem connects_own_client
    (reached :
      (handshakes Index Port).ReachableWhere DrawnApart state) :
    (∀ index client, (state.create index).stored = some client →
      client = index) ∧
      ∀ first second port, (state.create first).Awaits port →
        (state.create second).Awaits port → first = second := by
  have apart := apart_of_reachableWhere reached
  constructor
  · intro index client isStored
    exact apart.own index client (CreatePc.peer_of_stored isStored)
  · intro first second port firstAwaits secondAwaits
    exact
      apart.alone first second port
        (Or.inl (CreatePc.drawn_of_awaits firstAwaits))
        (Or.inl (CreatePc.drawn_of_awaits secondAwaits))

end Handshakes

/-! ## Two calls on one host -/

instance {Index : Type u} {Port : Type v}
    [DecidableEq Index] [DecidableEq Port]
    (state : Handshakes Index Port) (index : Index) (port : Port) :
    Decidable (state.Reserves index port) :=
  inferInstanceAs (Decidable (_ ∨ _ ∨ _ ∧ _ ∨ _))

/-- No port is bound, and nobody has begun. -/
def quietHost : Handshakes Bool Nat where
  create _ := .starting
  client _ := .waiting
  mail _ := none
  sockets _ := none

theorem quietHost_initial : (handshakes Bool Nat).initial quietHost :=
  ⟨fun _ => rfl, fun _ => rfl, fun _ => rfl, nofun⟩

def checkDrawnApart (state : Handshakes Bool Nat) :
    HandshakeEvent Bool Nat → Bool
  | .probe index port =>
      decide (∀ other, other ≠ index → ¬ state.Reserves other port)
  | _ => true

theorem drawnApart_of_check
    (state : Handshakes Bool Nat) (event : HandshakeEvent Bool Nat)
    (checked : checkDrawnApart state event = true) :
    state.DrawnApart event := by
  cases event with
  | probe index port =>
      have apart :
          ∀ other, other ≠ index → ¬ state.Reserves other port :=
        of_decide_eq_true checked
      exact apart
  | drop | announce | bind | accept | establish | fail | close | hear
  | giveUp | otherBind | otherClose =>
      trivial

/-- The whole handshake of a call that draws `port`. -/
def wholeHandshake (index : Bool) (port : Nat) :
    List (HandshakeEvent Bool Nat) :=
  [.probe index port, .drop index, .announce index, .hear index,
    .bind index, .accept index index, .establish index]

def ownPorts : Option (Handshakes Bool Nat) :=
  (handshakes Bool Nat).checkedRun checkDrawnApart quietHost
    (wholeHandshake false 40000 ++ wholeHandshake true 40001)

def ownPortsEnd : Handshakes Bool Nat := ownPorts.get (by decide)

theorem connects_own_client_ownPorts :
    (∀ index client, (ownPortsEnd.create index).stored = some client →
      client = index) ∧
      ∀ first second port, (ownPortsEnd.create first).Awaits port →
        (ownPortsEnd.create second).Awaits port → first = second :=
  Handshakes.connects_own_client
    ⟨quietHost, quietHost_initial,
      TransitionSystem.runsWhere_of_checkedRun drawnApart_of_check
        (Option.some_get (by decide : ownPorts.isSome = true)).symm⟩

/-- Both calls draw the port before one of them has bound it again. -/
def portDrawnTwice : List (HandshakeEvent Bool Nat) :=
  [.probe false 40000, .drop false, .probe true 40000, .drop true,
    .announce false, .announce true]

/-- The client of the second call is faster than that of the first one. -/
def otherClientFirst : List (HandshakeEvent Bool Nat) :=
  portDrawnTwice ++
    [.hear true, .bind false, .accept false true, .establish false]

/-- One address is announced to two clients, and a call stores the connection
of the other one's client. -/
theorem stores_other_client :
    (∃ state, (handshakes Bool Nat).Reachable state ∧
      (state.create false).Awaits 40000 ∧
        (state.create true).Awaits 40000) ∧
      ∃ state, (handshakes Bool Nat).Reachable state ∧
        (state.create false).stored = some true := by
  have announced :
      ((handshakes Bool Nat).run quietHost portDrawnTwice).isSome =
        true := by
    decide
  have stored :
      ((handshakes Bool Nat).run quietHost otherClientFirst).isSome =
        true := by
    decide
  refine
    ⟨⟨_, TransitionSystem.reachable_of_run quietHost_initial announced,
        Or.inl rfl, Or.inl rfl⟩,
      ⟨_, TransitionSystem.reachable_of_run quietHost_initial stored,
        rfl⟩⟩

end CloudP2P.Provider
