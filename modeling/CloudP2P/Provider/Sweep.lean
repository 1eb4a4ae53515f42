import CloudP2P.Provider.Service

/-!
# Connections and contexts

The sweep goes through `transport_ends_vec` with `retain` and updates
`contexts` from inside the closure, while accept tasks push to the vector
between two sweeps.  This module relates the two collections at every point
of such a run, also in the middle of `retain`.
-/

universe u v

namespace CloudP2P.Provider

namespace StegPc

variable {Ends : Type v}

/-- The connections that the current sweep has kept. -/
def kept : StegPc Ends → List Ends
  | .sweeping kept _ => kept
  | .head => []
  | .waiting => []
  | .resting => []
  | .stopped => []

/-- The elements of `transport_ends_vec`, also while `retain` runs. -/
def remaining (vec : List Ends) : StegPc Ends → List Ends
  | .sweeping kept rest => kept ++ rest
  | .head => vec
  | .waiting => vec
  | .resting => vec
  | .stopped => vec

end StegPc

namespace Service

variable {Endpoint : Type u} {Ends : Type v}

/-- The connections in `transport_ends_vec`. -/
def connections (service : Service Endpoint Ends) : List Ends :=
  service.steg.remaining service.transportEndsVec

/-- The ends that an event pushes. -/
def pushedBy (service : Service Endpoint Ends) :
    ServiceEvent Ends → Option Ends
  | .task index .push =>
      service.tasks[index]?.bind fun task =>
        match task.pc with
        | .pushing ends => some ends
        | _ => none
  | _ => none

/-- The connection that an event probes, and the answer of `is_active`. -/
def answeredBy (service : Service Endpoint Ends) :
    ServiceEvent Ends → Option (Ends × Bool)
  | .steg (.probe active) =>
      match service.steg with
      | .sweeping _ (ends :: _) => some (ends, active)
      | _ => none
  | _ => none

/-- The connection for which an event creates a context. -/
def exportedBy [DecidableEq Ends] (service : Service Endpoint Ends)
    (event : ServiceEvent Ends) : Option Ends :=
  match service.answeredBy event with
  | some (ends, true) =>
      if ends ∈ service.contexts then none else some ends
  | _ => none

/-- Every context belongs to a connection, and every connection that the
current sweep has kept has its context. -/
structure InStep (pushed : Ends → Prop)
    (service : Service Endpoint Ends) : Prop where
  distinct : service.connections.Nodup
  known : ∀ ends ∈ service.connections, pushed ends
  keys : ∀ ends ∈ service.contexts, ends ∈ service.connections
  kept : ∀ ends ∈ service.steg.kept, ends ∈ service.contexts

theorem inStep_start (pushed : Ends → Prop) :
    InStep pushed (start : Service Endpoint Ends) where
  distinct := List.nodup_nil
  known := by simp [connections, start, StegPc.remaining]
  keys := by simp [start]
  kept := by simp [start, StegPc.kept]

section Moves

variable [DecidableEq Ends] {myId : UInt64} {endpoints : List Endpoint}
variable {service target : Service Endpoint Ends}
variable {event : ServiceEvent Ends} {pushed : Ends → Prop}

omit [DecidableEq Ends] in
theorem connections_of_unlocked
    (unlocked : service.vecLocked = false) :
    service.connections = service.transportEndsVec := by
  unfold connections
  cases pc : service.steg with
  | sweeping kept rest =>
      simp [vecLocked, pc] at unlocked
  | head | waiting | resting | stopped =>
      rfl

omit [DecidableEq Ends] in
theorem kept_of_unlocked
    (unlocked : service.vecLocked = false) :
    service.steg.kept = [] := by
  cases pc : service.steg with
  | sweeping kept rest =>
      simp [vecLocked, pc] at unlocked
  | head | waiting | resting | stopped =>
      rfl

omit [DecidableEq Ends] in
theorem connections_of_sweeping
    {kept rest : List Ends} (sweeping : service.steg = .sweeping kept rest) :
    service.connections = kept ++ rest := by
  rw [connections, sweeping]
  rfl

omit [DecidableEq Ends] in
theorem kept_of_sweeping
    {kept rest : List Ends} (sweeping : service.steg = .sweeping kept rest) :
    service.steg.kept = kept := by
  rw [sweeping]
  rfl

omit [DecidableEq Ends] in
theorem vecLocked_of_sweeping
    {kept rest : List Ends} (sweeping : service.steg = .sweeping kept rest) :
    service.vecLocked = true := by
  simp [vecLocked, sweeping]

omit [DecidableEq Ends] in
theorem probed_mem_connections
    {kept rest : List Ends} {ends : Ends}
    (sweeping : service.steg = .sweeping kept (ends :: rest)) :
    ends ∈ service.connections := by
  rw [connections_of_sweeping sweeping]
  exact List.mem_append_right kept List.mem_cons_self

omit [DecidableEq Ends] in
/-- Keeping a connection does not change the vector. -/
theorem connections_retained
    {kept rest : List Ends} {ends : Ends} (contexts : Finset Ends)
    (sweeping : service.steg = .sweeping kept (ends :: rest)) :
    ({ service with
        steg := .sweeping (kept ++ [ends]) rest
        contexts := contexts } : Service Endpoint Ends).connections =
      service.connections := by
  rw [connections_of_sweeping sweeping]
  simp [connections, StegPc.remaining]

omit [DecidableEq Ends] in
theorem connections_pushed
    (index : Nat) (ends : Ends) (unlocked : service.vecLocked = false) :
    ({ service.setTask index .finished with
        transportEndsVec := service.transportEndsVec ++ [ends] } :
      Service Endpoint Ends).connections =
      service.connections ++ [ends] := by
  rw [connections_of_unlocked unlocked]
  exact connections_of_unlocked unlocked

/-- Apart from its probes the sweep leaves the vector and the contexts as
they are. -/
theorem StegMoves.unprobed
    {inner : StegEvent} (moves : StegMoves myId service inner target)
    (noProbe : ∀ active, inner ≠ .probe active) :
    target.connections = service.connections ∧
      target.contexts = service.contexts := by
  cases moves with
  | retain | remove =>
      exact False.elim (noProbe _ rfl)
  | stay =>
      exact ⟨rfl, rfl⟩
  | enter pc | lockVec pc | release _ pc =>
      exact ⟨by simp [connections, StegPc.remaining, pc], rfl⟩
  | rest stop pc =>
      cases stop <;> exact ⟨by simp [connections, StegPc.remaining, pc], rfl⟩

omit [DecidableEq Ends] in
/-- The connection that is probed occurs nowhere else in the vector. -/
theorem InStep.probed_notMem
    {kept rest : List Ends} {ends : Ends} (inStep : InStep pushed service)
    (sweeping : service.steg = .sweeping kept (ends :: rest)) :
    ends ∉ kept ++ rest := by
  have distinct := inStep.distinct
  rw [connections_of_sweeping sweeping] at distinct
  exact (List.nodup_cons.mp (List.nodup_middle.mp distinct)).1

omit [DecidableEq Ends] in
theorem InStep.probed_notKept
    {kept rest : List Ends} {ends : Ends} (inStep : InStep pushed service)
    (sweeping : service.steg = .sweeping kept (ends :: rest)) :
    ends ∉ service.steg.kept := by
  rw [kept_of_sweeping sweeping]
  intro member
  exact inStep.probed_notMem sweeping (List.mem_append_left rest member)

omit [DecidableEq Ends] in
theorem mem_connections_of_remaining
    {kept rest : List Ends} {ends other : Ends}
    (sweeping : service.steg = .sweeping kept (ends :: rest))
    (member : other ∈ kept ++ rest) : other ∈ service.connections := by
  rw [connections_of_sweeping sweeping]
  exact
    (List.Sublist.append_left (List.sublist_cons_self ends rest)
      kept).subset member

omit [DecidableEq Ends] in
theorem InStep.mono
    {more : Ends → Prop} (inStep : InStep pushed service)
    (grows : ∀ ends, pushed ends → more ends) :
    InStep more service where
  distinct := inStep.distinct
  known := fun ends member => grows ends (inStep.known ends member)
  keys := inStep.keys
  kept := inStep.kept

omit [DecidableEq Ends] in
/-- Only the connections, the contexts and what has been kept matter. -/
theorem InStep.congr
    (inStep : InStep pushed service)
    (sameConnections : target.connections = service.connections)
    (sameContexts : target.contexts = service.contexts)
    (fewerKept : target.steg.kept ⊆ service.steg.kept) :
    InStep pushed target where
  distinct := by rw [sameConnections]; exact inStep.distinct
  known := by rw [sameConnections]; exact inStep.known
  keys := by rw [sameConnections, sameContexts]; exact inStep.keys
  kept := by
    rw [sameContexts]
    exact fun ends member => inStep.kept ends (fewerKept member)

omit [DecidableEq Ends] in
private theorem InStep.of_noneKept
    (inStep : InStep pushed service)
    (sameConnections : target.connections = service.connections)
    (sameContexts : target.contexts = service.contexts)
    (noneKept : target.steg.kept = []) : InStep pushed target :=
  inStep.congr sameConnections sameContexts (by simp [noneKept])

omit [DecidableEq Ends] in
private theorem InStep.taskMoves
    {index : Nat} {task : AcceptTask Endpoint Ends}
    {inner : TaskEvent Ends} (inStep : InStep pushed service)
    (fresh :
      ∀ ends, service.pushedBy (.task index inner) = some ends →
        ¬ pushed ends)
    (found : service.tasks[index]? = some task)
    (moves : TaskMoves service index task inner target) :
    InStep
      (fun ends =>
        pushed ends ∨ service.pushedBy (.task index inner) = some ends)
      target := by
  cases moves with
  | accept | connect | create =>
      exact
        (inStep.mono fun _ => Or.inl).congr rfl rfl
          (List.Subset.refl _)
  | push ends pushing unlocked =>
      have pushes : service.pushedBy (.task index .push) = some ends := by
        simp [pushedBy, found, pushing]
      have after := connections_pushed index ends unlocked
      have absent : ends ∉ service.connections := by
        intro member
        exact fresh ends pushes (inStep.known ends member)
      refine
        { distinct := ?_, known := ?_, keys := ?_, kept := inStep.kept }
      · rw [after]
        exact
          inStep.distinct.append (List.nodup_singleton ends) (by
            simpa using absent)
      · rw [after]
        intro other member
        rcases List.mem_append.mp member with old | new
        · exact Or.inl (inStep.known other old)
        · rw [List.mem_singleton.mp new]
          exact Or.inr pushes
      · rw [after]
        intro other member
        exact List.mem_append_left [ends] (inStep.keys other member)

private theorem InStep.stegMoves
    {inner : StegEvent} (inStep : InStep pushed service)
    (moves : StegMoves myId service inner target) :
    InStep pushed target := by
  have quiet := moves.unprobed
  cases moves with
  | stay =>
      exact inStep
  | enter | lockVec | release =>
      obtain ⟨sameConnections, sameContexts⟩ := quiet (by simp)
      exact inStep.of_noneKept sameConnections sameContexts rfl
  | rest stop =>
      obtain ⟨sameConnections, sameContexts⟩ := quiet (by simp)
      refine inStep.of_noneKept sameConnections sameContexts ?_
      cases stop <;> rfl
  | retain kept ends rest sweeping =>
      have same :=
        connections_retained (insert ends service.contexts) sweeping
      refine
        { distinct := ?_, known := ?_, keys := ?_, kept := ?_ }
      · rw [same]
        exact inStep.distinct
      · rw [same]
        exact inStep.known
      · rw [same]
        intro other member
        rcases Finset.mem_insert.mp member with probed | old
        · rw [probed, connections_of_sweeping sweeping]
          simp
        · exact inStep.keys other old
      · intro other member
        have keptBefore := inStep.kept other
        simp only [StegPc.kept, sweeping] at keptBefore member
        rcases List.mem_append.mp member with old | new
        · exact Finset.mem_insert_of_mem (keptBefore old)
        · rw [List.mem_singleton.mp new]
          exact Finset.mem_insert_self ends service.contexts
  | remove kept ends rest sweeping =>
      have before := connections_of_sweeping sweeping
      have onlyOnce := inStep.probed_notMem sweeping
      refine
        { distinct := ?_, known := ?_, keys := ?_, kept := ?_ }
      · have distinct := inStep.distinct
        rw [before] at distinct
        exact (List.nodup_cons.mp (List.nodup_middle.mp distinct)).2
      · intro other member
        exact
          inStep.known other
            (mem_connections_of_remaining sweeping member)
      · intro other member
        obtain ⟨different, old⟩ := Finset.mem_erase.mp member
        have present := inStep.keys other old
        rw [before] at present
        simpa [connections, StegPc.remaining, different] using present
      · intro other member
        have keptBefore := inStep.kept other
        simp only [StegPc.kept, sweeping] at keptBefore member
        refine Finset.mem_erase.mpr ⟨?_, keptBefore member⟩
        intro same
        rw [same] at member
        exact onlyOnce (List.mem_append_left rest member)

/-- One step keeps connections and contexts in step, if what it pushes is
new. -/
theorem InStep.moves
    (inStep : InStep pushed service)
    (fresh :
      ∀ ends, service.pushedBy event = some ends → ¬ pushed ends)
    (moves : Moves myId endpoints service event target) :
    InStep
      (fun ends => pushed ends ∨ service.pushedBy event = some ends)
      target := by
  cases moves with
  | storeLeader =>
      exact (inStep.mono fun _ => Or.inl).congr rfl rfl
          (List.Subset.refl _)
  | connection event target moves =>
      cases moves <;>
        exact (inStep.mono fun _ => Or.inl).congr rfl rfl
          (List.Subset.refl _)
  | task index task event target found moves =>
      exact inStep.taskMoves fresh found moves
  | steg event target moves =>
      exact (inStep.stegMoves moves).mono fun _ => Or.inl

end Moves

end Service

/-! ## The record of a run -/

/-- What a run has done with each connection. -/
structure SweepRecord (Ends : Type v) where
  /-- every connection pushed so far -/
  pushed : List Ends
  /-- the answers of `is_active` in the current or the last sweep -/
  answers : List (Ends × Bool)
  /-- the number of contexts created for a connection -/
  exports : Ends → Nat

namespace SweepRecord

variable {Endpoint : Type u} {Ends : Type v}

def blank : SweepRecord Ends where
  pushed := []
  answers := []
  exports := fun _ => 0

/-- A new sweep begins a new list of answers. -/
def answersAfter (source : Service Endpoint Ends)
    (event : ServiceEvent Ends) (answers : List (Ends × Bool)) :
    List (Ends × Bool) :=
  match event with
  | .steg .lockVec => []
  | _ => answers ++ (source.answeredBy event).toList

variable [DecidableEq Ends]

def observe (source : Service Endpoint Ends) (event : ServiceEvent Ends)
    (_target : Service Endpoint Ends) (record : SweepRecord Ends) :
    SweepRecord Ends where
  pushed := (source.pushedBy event).toList ++ record.pushed
  answers := answersAfter source event record.answers
  exports := fun ends =>
    record.exports ends +
      if source.exportedBy event = some ends then 1 else 0

end SweepRecord

/-- The runs of the service with their records. -/
def sweepSystem {Endpoint : Type u} {Ends : Type v} [DecidableEq Ends]
    (myId : UInt64) (endpoints : List Endpoint) :
    TransitionSystem (Service Endpoint Ends × SweepRecord Ends)
      (ServiceEvent Ends) :=
  (serviceSystem myId endpoints).observed SweepRecord.blank
    SweepRecord.observe

/-- What an accept task pushes has not been pushed before. -/
def pushesNew {Endpoint : Type u} {Ends : Type v} [DecidableEq Ends]
    (state : Service Endpoint Ends × SweepRecord Ends)
    (event : ServiceEvent Ends) : Bool :=
  match state.1.pushedBy event with
  | some ends => decide (ends ∉ state.2.pushed)
  | none => true

namespace Service

variable {Endpoint : Type u} {Ends : Type v} [DecidableEq Ends]
variable {myId : UInt64} {endpoints : List Endpoint}
variable {service target : Service Endpoint Ends}
variable {event : ServiceEvent Ends}

/-- What the answers of the current sweep have led to. -/
structure Answered (answers : List (Ends × Bool))
    (service : Service Endpoint Ends) : Prop where
  active : ∀ ends ∈ service.steg.kept, (ends, true) ∈ answers
  inactive :
    service.vecLocked = true →
      ∀ ends, (ends, false) ∈ answers → ends ∉ service.connections

omit [DecidableEq Ends] in
private theorem Answered.unlocked
    {answers : List (Ends × Bool)}
    (unlocked : service.vecLocked = false) :
    Answered answers service where
  active := by
    rw [kept_of_unlocked unlocked]
    simp
  inactive := by
    rw [unlocked]
    simp

private theorem Answered.stegMoves
    {answers : List (Ends × Bool)} {pushed : Ends → Prop}
    {inner : StegEvent} (answered : Answered answers service)
    (inStep : InStep pushed service)
    (moves : StegMoves myId service inner target) :
    Answered
      (SweepRecord.answersAfter service (.steg inner) answers) target := by
  cases moves with
  | stay atHead | enter atHead =>
      apply Answered.unlocked
      simp [vecLocked, atHead]
  | release =>
      exact Answered.unlocked rfl
  | rest stop =>
      apply Answered.unlocked
      cases stop <;> rfl
  | lockVec =>
      exact
        { active := by simp [StegPc.kept]
          inactive := by simp [SweepRecord.answersAfter] }
  | retain kept ends rest sweeping =>
      have told :
          SweepRecord.answersAfter service (.steg (.probe true)) answers =
            answers ++ [(ends, true)] := by
        simp [SweepRecord.answersAfter, answeredBy, sweeping]
      have same :=
        connections_retained (insert ends service.contexts) sweeping
      rw [told]
      constructor
      · intro other member
        have before := answered.active other
        simp only [StegPc.kept, sweeping] at before member
        rcases List.mem_append.mp member with old | new
        · exact List.mem_append_left _ (before old)
        · rw [List.mem_singleton.mp new]
          exact List.mem_append_right _ (List.mem_singleton_self _)
      · intro _ other member
        rw [same]
        apply answered.inactive (vecLocked_of_sweeping sweeping)
        simpa using member
  | remove kept ends rest sweeping =>
      have told :
          SweepRecord.answersAfter service (.steg (.probe false)) answers =
            answers ++ [(ends, false)] := by
        simp [SweepRecord.answersAfter, answeredBy, sweeping]
      rw [told]
      constructor
      · intro other member
        have earlier := answered.active other
        simp only [StegPc.kept, sweeping] at earlier member
        exact List.mem_append_left _ (earlier member)
      · intro _ other member present
        change other ∈ kept ++ rest at present
        rcases List.mem_append.mp member with old | new
        · apply answered.inactive (vecLocked_of_sweeping sweeping) other old
          exact mem_connections_of_remaining sweeping present
        · cases List.mem_singleton.mp new
          exact inStep.probed_notMem sweeping present

theorem Answered.moves
    {answers : List (Ends × Bool)} {pushed : Ends → Prop}
    (answered : Answered answers service)
    (inStep : InStep pushed service)
    (moves : Moves myId endpoints service event target) :
    Answered (SweepRecord.answersAfter service event answers) target := by
  have silent :
      ∀ other : ServiceEvent Ends,
        service.answeredBy other = none → other ≠ .steg .lockVec →
          SweepRecord.answersAfter service other answers = answers := by
    intro other noAnswer noLock
    unfold SweepRecord.answersAfter
    split
    · exact False.elim (noLock rfl)
    · rw [noAnswer]
      simp
  cases moves with
  | storeLeader =>
      rw [silent _ rfl (by simp)]
      exact { active := answered.active, inactive := answered.inactive }
  | connection event target moves =>
      rw [silent _ rfl (by simp)]
      cases moves <;>
        exact { active := answered.active, inactive := answered.inactive }
  | task index task event target found moves =>
      rw [silent _ rfl (by simp)]
      cases moves with
      | accept | connect | create =>
          exact
            { active := answered.active, inactive := answered.inactive }
      | push ends pushing unlocked =>
          exact Answered.unlocked unlocked
  | steg event target moves =>
      exact answered.stegMoves inStep moves

/-- No connection has had two contexts, and one that has had its context
still has it while it is in the vector. -/
structure ExportedOnce (pushed : Ends → Prop) (exports : Ends → Nat)
    (service : Service Endpoint Ends) : Prop where
  once : ∀ ends, exports ends ≤ 1
  held :
    ∀ ends ∈ service.connections,
      ends ∈ service.contexts ∨ exports ends = 0
  unknown : ∀ ends, ¬ pushed ends → exports ends = 0

/-- A context is created for a connection without one, which has had none
before. -/
private theorem ExportedOnce.retain
    {pushed : Ends → Prop} {exports : Ends → Nat}
    {kept rest : List Ends} {ends : Ends}
    (exported : ExportedOnce pushed exports service)
    (inStep : InStep pushed service)
    (sweeping : service.steg = .sweeping kept (ends :: rest)) :
    ExportedOnce pushed
      (fun other =>
        exports other +
          if service.exportedBy (.steg (.probe true)) = some other then 1
          else 0)
      { service with
        steg := .sweeping (kept ++ [ends]) rest
        contexts := insert ends service.contexts } := by
  have present : ends ∈ service.connections := by
    rw [connections_of_sweeping sweeping]
    simp
  have same :=
    connections_retained (insert ends service.contexts) sweeping
  by_cases already : ends ∈ service.contexts
  · have noExport : service.exportedBy (.steg (.probe true)) = none := by
      simp [exportedBy, answeredBy, sweeping, already]
    simp only [noExport, reduceCtorEq, if_false, Nat.add_zero]
    refine
      { once := exported.once, held := ?_, unknown := exported.unknown }
    rw [same, Finset.insert_eq_of_mem already]
    exact exported.held
  · have exporting :
        service.exportedBy (.steg (.probe true)) = some ends := by
      simp [exportedBy, answeredBy, sweeping, already]
    have noneBefore : exports ends = 0 :=
      (exported.held ends present).resolve_left already
    simp only [exporting, Option.some.injEq]
    refine { once := ?_, held := ?_, unknown := ?_ }
    · intro other
      by_cases probed : ends = other
      · rw [if_pos probed, ← probed, noneBefore]
      · rw [if_neg probed]
        exact exported.once other
    · rw [same]
      intro other member
      by_cases probed : ends = other
      · rw [← probed]
        exact Or.inl (Finset.mem_insert_self ends service.contexts)
      · rw [if_neg probed]
        exact
          (exported.held other member).imp_left Finset.mem_insert_of_mem
    · intro other notPushed
      have different : ends ≠ other := by
        intro probed
        rw [← probed] at notPushed
        exact notPushed (inStep.known ends present)
      rw [if_neg different]
      exact exported.unknown other notPushed

private theorem ExportedOnce.stegMoves
    {pushed : Ends → Prop} {exports : Ends → Nat} {inner : StegEvent}
    (exported : ExportedOnce pushed exports service)
    (inStep : InStep pushed service)
    (moves : StegMoves myId service inner target) :
    ExportedOnce pushed
      (fun ends =>
        exports ends +
          if service.exportedBy (.steg inner) = some ends then 1 else 0)
      target := by
  have quiet := moves.unprobed
  have silent :
      ∀ other : StegEvent,
        service.exportedBy (.steg other) = none →
          (fun ends =>
            exports ends +
              if service.exportedBy (.steg other) = some ends then 1
              else 0) = exports := by
    intro other noExport
    simp [noExport]
  cases moves with
  | retain kept ends rest sweeping =>
      exact exported.retain inStep sweeping
  | remove kept ends rest sweeping =>
      rw [silent _ (by simp [exportedBy, answeredBy, sweeping])]
      refine
        { once := exported.once, held := ?_, unknown := exported.unknown }
      intro other member
      have different : other ≠ ends := by
        intro same
        rw [same] at member
        exact inStep.probed_notMem sweeping member
      refine
        (exported.held other
          (mem_connections_of_remaining sweeping member)).imp_left ?_
      exact Finset.mem_erase_of_ne_of_mem different
  | stay | enter | lockVec | release | rest =>
      rw [silent _ rfl]
      obtain ⟨sameConnections, sameContexts⟩ := quiet (by simp)
      refine
        { once := exported.once, held := ?_, unknown := exported.unknown }
      rw [sameConnections, sameContexts]
      exact exported.held

theorem ExportedOnce.moves
    {pushed : Ends → Prop} {exports : Ends → Nat}
    (exported : ExportedOnce pushed exports service)
    (inStep : InStep pushed service)
    (fresh :
      ∀ ends, service.pushedBy event = some ends → ¬ pushed ends)
    (moves : Moves myId endpoints service event target) :
    ExportedOnce
      (fun ends => pushed ends ∨ service.pushedBy event = some ends)
      (fun ends =>
        exports ends +
          if service.exportedBy event = some ends then 1 else 0)
      target := by
  have unknown :
      ∀ ends,
        ¬ (pushed ends ∨ service.pushedBy event = some ends) →
          exports ends = 0 := by
    intro ends neither
    exact exported.unknown ends fun before => neither (Or.inl before)
  cases moves with
  | storeLeader =>
      exact
        { once := exported.once, held := exported.held
          unknown := unknown }
  | connection event target moves =>
      cases moves <;>
        exact
          { once := exported.once, held := exported.held
            unknown := unknown }
  | task index task event target found moves =>
      cases moves with
      | accept | connect | create =>
          exact
            { once := exported.once, held := exported.held
              unknown := unknown }
      | push ends pushing unlocked =>
          refine
            { once := exported.once, held := ?_, unknown := unknown }
          have pushes :
              service.pushedBy (.task index .push) = some ends := by
            simp [pushedBy, found, pushing]
          rw [connections_pushed index ends unlocked]
          intro other member
          rcases List.mem_append.mp member with old | new
          · exact exported.held other old
          · rw [List.mem_singleton.mp new]
            exact Or.inr (exported.unknown ends (fresh ends pushes))
  | steg event target moves =>
      have after := exported.stegMoves inStep moves
      exact
        { once := after.once
          held := after.held
          unknown := fun ends neither =>
            after.unknown ends fun before => neither (Or.inl before) }

/-- What holds at every point of a run, with its record. -/
structure Recorded (state : Service Endpoint Ends × SweepRecord Ends) :
    Prop where
  inStep : InStep (fun ends => ends ∈ state.2.pushed) state.1
  answered : Answered state.2.answers state.1
  exported :
    ExportedOnce (fun ends => ends ∈ state.2.pushed) state.2.exports
      state.1

theorem Recorded.step
    {source target : Service Endpoint Ends × SweepRecord Ends}
    (recorded : Recorded source)
    (new : pushesNew source event = true)
    (stepped :
      (sweepSystem myId endpoints).step source event = some target) :
    Recorded target := by
  obtain ⟨service, moved, rfl⟩ :=
    TransitionSystem.observed_step_eq_some stepped
  have moves : Moves myId endpoints source.1 event service :=
    moves_of_step moved
  have fresh :
      ∀ ends, source.1.pushedBy event = some ends →
        ends ∉ source.2.pushed := by
    intro ends pushes
    simpa [pushesNew, pushes] using new
  have pushedAfter :
      (fun ends =>
        ends ∈
          (SweepRecord.observe source.1 event service
            source.2).pushed) =
        fun ends =>
          ends ∈ source.2.pushed ∨
            source.1.pushedBy event = some ends := by
    funext ends
    simp [SweepRecord.observe, or_comm]
  refine { inStep := ?_, answered := ?_, exported := ?_ }
  · rw [pushedAfter]
    exact recorded.inStep.moves fresh moves
  · exact recorded.answered.moves recorded.inStep moves
  · rw [pushedAfter]
    exact recorded.exported.moves recorded.inStep fresh moves

theorem recorded_of_reachableWhere
    {state : Service Endpoint Ends × SweepRecord Ends}
    (reachable :
      (sweepSystem myId endpoints).ReachableWhere
        (fun source event => pushesNew source event = true) state) :
    Recorded state := by
  have begins :
      ∀ source : Service Endpoint Ends × SweepRecord Ends,
        (sweepSystem myId endpoints).initial source →
          Recorded source := by
    rintro ⟨service, record⟩ ⟨fresh, noRecord⟩
    have atStart : service = Service.start := fresh
    have blank : record = SweepRecord.blank := noRecord
    subst atStart blank
    exact
      { inStep := inStep_start _
        answered := Answered.unlocked rfl
        exported :=
          { once := fun _ => Nat.zero_le 1
            held := fun _ _ => Or.inr rfl
            unknown := fun _ _ => rfl } }
  exact reachable.invariant begins fun _ _ _ => Recorded.step

/-- Connections and contexts stay in step: at every point every context
belongs to a connection in the vector, and no connection has had two of
them; after every sweep the contexts are those of the connections in the
vector, all of which have answered, while those that have not are in
neither. -/
theorem contexts_in_step
    {record : SweepRecord Ends}
    (reachable :
      (sweepSystem myId endpoints).ReachableWhere
        (fun source event => pushesNew source event = true)
        (service, record)) :
    (∀ ends ∈ service.contexts, ends ∈ service.connections) ∧
      (∀ ends, record.exports ends ≤ 1) ∧
        ∀ swept,
          service.step myId endpoints (.steg .release) = some swept →
            (∀ ends,
              ends ∈ swept.contexts ↔ ends ∈ swept.transportEndsVec) ∧
              (∀ ends ∈ swept.transportEndsVec,
                (ends, true) ∈ record.answers) ∧
                ∀ ends, (ends, false) ∈ record.answers →
                  ends ∉ swept.transportEndsVec ∧
                    ends ∉ swept.contexts := by
  have recorded := recorded_of_reachableWhere reachable
  refine ⟨recorded.inStep.keys, recorded.exported.once, ?_⟩
  intro swept stepped
  have moves : Moves myId endpoints service (.steg .release) swept :=
    moves_of_step stepped
  cases moves with
  | steg _ _ moves =>
      cases moves with
      | release kept sweeping =>
          have connectionsKept : service.connections = kept := by
            rw [connections_of_sweeping sweeping, List.append_nil]
          have stegKept := kept_of_sweeping sweeping
          have locked := vecLocked_of_sweeping sweeping
          have keys := recorded.inStep.keys
          have contextKept := recorded.inStep.kept
          have active := recorded.answered.active
          have inactive := recorded.answered.inactive locked
          rw [connectionsKept] at keys inactive
          rw [stegKept] at contextKept active
          refine
            ⟨fun ends => ⟨keys ends, contextKept ends⟩, active, ?_⟩
          intro ends answer
          exact
            ⟨inactive ends answer,
              fun member => inactive ends answer (keys ends member)⟩

end Service

/-! ## Two clients, one of which has gone -/

/-- Node 2 is made leader, accepts clients 7 and 8, and sweeps them. -/
def sweepTwoClients : List (ServiceEvent Nat) :=
  let newClient (index ends : Nat) : List (ServiceEvent Nat) :=
    [.task index (.accepted true), .task index (.connected true),
     .task index (.created (some ends)), .task index .push]
  [.storeLeader 2, .connection .check, .connection (.offer true),
   .connection (.offer true)] ++ newClient 0 7 ++ newClient 1 8 ++
    [.steg .check, .steg .lockVec, .steg (.probe true),
     .steg (.probe false)]

def twoClients : Service Unit Nat × SweepRecord Nat :=
  ((sweepSystem 2 [(), ()]).checkedRun pushesNew
    (Service.start, SweepRecord.blank) sweepTwoClients).get
      (by decide +kernel)

theorem twoClients_reachable :
    (sweepSystem 2 [(), ()]).ReachableWhere
      (fun source event => pushesNew source event = true) twoClients :=
  ⟨(Service.start, SweepRecord.blank), ⟨rfl, rfl⟩,
    TransitionSystem.runsWhere_of_checkedRun
      (fun _ _ checked => checked) (Option.some_get _).symm⟩

theorem contexts_in_step_twoClients :
    (∀ ends ∈ twoClients.1.contexts,
        ends ∈ twoClients.1.connections) ∧
      (∀ ends, twoClients.2.exports ends ≤ 1) ∧
        ∀ swept,
          twoClients.1.step 2 [(), ()] (.steg .release) = some swept →
            (∀ ends,
              ends ∈ swept.contexts ↔ ends ∈ swept.transportEndsVec) ∧
              (∀ ends ∈ swept.transportEndsVec,
                (ends, true) ∈ twoClients.2.answers) ∧
                ∀ ends, (ends, false) ∈ twoClients.2.answers →
                  ends ∉ swept.transportEndsVec ∧
                    ends ∉ swept.contexts :=
  Service.contexts_in_step twoClients_reachable

end CloudP2P.Provider
