import CloudP2P.Rpc.Handling

/-!
# Proxies and the objects behind them

A handle is the id of an object that the other end has exported; making it
into a proxy gives a `Handle`, whose `call` invokes a method of the object
and whose `Drop` sends a delete request for it.  An id that has been deleted
is given out again, so a proxy that outlived its object would call a stranger.

Nothing in the library keeps a handle from being copied, and two proxies made
from one handle delete the same object; nor does the drop of a handle delete
anything, as in a context that does not want the initial service of the other.

`ProxyState` is a connection together with the handles and proxies of its two
sides.  An entry of a custody carries the object that its id was given to; no
step looks at it.
-/

universe u

namespace CloudP2P.Rpc

open scoped List

/-- An id that has been given out, and the object that it was given to. -/
abbrev Entry (Object : Type u) := ServiceObjectId × Object

/-- What one side holds of the objects of the other. -/
structure Custody (Object : Type u) where
  /-- Handles that nobody has made into a proxy. -/
  offered : List (Entry Object)
  held : List (Entry Object)
  /-- Proxies whose delete request nobody has started to handle. -/
  dropped : List (Entry Object)
  /-- Handles that were dropped before anybody made them into a proxy. -/
  lost : List (Entry Object)
  /-- Proxies made from null handles. -/
  nulls : Nat
  /-- The object behind the proxy that each call was made on. -/
  targets : List Object
  /-- `no_drop` of the port. -/
  noDrop : Bool

structure ProxyState (Object : Type u) where
  connection : Connection Object
  custody : Side → Custody Object

inductive ProxyEvent (Object : Type u) where
  /-- Any step of the connection but the start of a call. -/
  | take (event : ConnectionEvent Object)
  | importProxy (side : Side) (index : Nat)
  | dropHandle (side : Side) (index : Nat)
  /-- A handle is copied, or read from bytes that hold any id. -/
  | copyHandle (side : Side) (entry : Entry Object)
  | importNull (side : Side)
  | dropNull (side : Side)
  | callMethod (side : Side) (index : Nat) (method : MethodId)
      (args : Bytes)
  | dropProxy (side : Side) (index : Nat)
  | setNoDrop (side : Side)

def EndEvent.invokes {Object : Type u} : EndEvent Object → Bool
  | .client (.invoke _) => true
  | _ => false

namespace Custody

variable {Object : Type u}

/-- A context imports the meta service of the other end, and gets a handle
to its initial service. -/
def new (metaService serviceObject : Object) : Custody Object where
  offered := [(initialServiceObjectId, serviceObject)]
  held := [(metaServiceObjectId, metaService)]
  dropped := []
  lost := []
  nulls := 0
  targets := []
  noDrop := false

def entries (custody : Custody Object) : List (Entry Object) :=
  custody.offered ++ (custody.held ++ (custody.dropped ++ custody.lost))

/-- What a step of the connection makes of the custody of one side: an
object that the other side registers is offered to it, and a delete request
that the other side starts to handle is done with. -/
def after (custody : Custody Object) (connection : Connection Object)
    (side : Side) (event : ConnectionEvent Object) : Custody Object :=
  if event.side = side.other then
    let server := (connection.ends side.other).server
    match event.event with
    | .server (.insert index) =>
        match server.registry.registering[index]? with
        | some entry =>
            { custody with offered := custody.offered ++ [entry] }
        | none => custody
    | .server (.start index) =>
        match server.tasks[index]? with
        | some ⟨request, .queued⟩ =>
            if request.method = deleteRequest then
              { custody with
                dropped :=
                  custody.dropped.eraseP fun entry =>
                    entry.1 == request.serviceObjectId }
            else
              custody
        | _ => custody
    | _ => custody
  else
    custody

end Custody

namespace ProxyState

variable {Object : Type u}

/-- No call of a method of the object with this id is under way, so that its
proxy can be dropped. -/
def unused (state : ProxyState Object) (side : Side)
    (id : ServiceObjectId) : Bool :=
  (state.connection.ends side).client.calls.all fun call =>
    call.request.serviceObjectId != id ||
      call.request.method == deleteRequest || call.ended

def setCustody (state : ProxyState Object) (side : Side)
    (custody : Custody Object) : ProxyState Object :=
  { state with custody := Function.update state.custody side custody }

/-- A call of `Port::call` on behalf of an object. -/
def call (config : Side → Config) (state : ProxyState Object) (side : Side)
    (custody : Custody Object) (request : Frame) (object : Object) :
    Option (ProxyState Object) :=
  (state.connection.step config ⟨side, .client (.invoke request)⟩).map
    fun connection =>
      { connection
        custody :=
          Function.update state.custody side
            { custody with targets := custody.targets ++ [object] } }

def step (config : Side → Config) (state : ProxyState Object) :
    ProxyEvent Object → Option (ProxyState Object)
  | .take event =>
      if event.event.invokes then
        none
      else
        (state.connection.step config event).map fun connection =>
          { connection
            custody := fun side =>
              (state.custody side).after state.connection side event }
  | .importProxy side index =>
      let custody := state.custody side
      (custody.offered[index]?).map fun entry =>
        state.setCustody side
          { custody with
            offered := custody.offered.eraseIdx index
            held := custody.held ++ [entry] }
  | .dropHandle side index =>
      let custody := state.custody side
      (custody.offered[index]?).map fun entry =>
        state.setCustody side
          { custody with
            offered := custody.offered.eraseIdx index
            lost := custody.lost ++ [entry] }
  | .copyHandle side entry =>
      let custody := state.custody side
      some
        (state.setCustody side
          { custody with offered := custody.offered ++ [entry] })
  | .importNull side =>
      let custody := state.custody side
      some (state.setCustody side { custody with nulls := custody.nulls + 1 })
  -- a proxy of `NULL_ID` asks for nothing when it is dropped
  | .dropNull side =>
      let custody := state.custody side
      if custody.nulls = 0 then
        none
      else
        some
          (state.setCustody side { custody with nulls := custody.nulls - 1 })
  -- `Handle::call`
  | .callMethod side index method args =>
      let custody := state.custody side
      match custody.held[index]? with
      | some (id, object) =>
          if id = nullId then
            none
          else
            state.call config side custody ⟨.newRequest, id, method, args⟩
              object
      | none => none
  -- `drop` of a `Handle` and `delete_request` of the port
  | .dropProxy side index =>
      let custody := state.custody side
      match custody.held[index]? with
      | some (id, object) =>
          if state.unused side id then
            let custody :=
              { custody with held := custody.held.eraseIdx index }
            if id = nullId ∨ custody.noDrop then
              some (state.setCustody side custody)
            else
              state.call config side
                { custody with dropped := custody.dropped ++ [(id, object)] }
                ⟨.newRequest, id, deleteRequest, []⟩ object
          else
            none
      | none => none
  | .setNoDrop side =>
      some
        (state.setCustody side { state.custody side with noDrop := true })

/-- Everything that one step can do, with its guards. -/
inductive Moves (config : Side → Config) (state : ProxyState Object) :
    ProxyEvent Object → ProxyState Object → Prop where
  | take (event : ConnectionEvent Object) (connection : Connection Object)
      (other : event.event.invokes = false)
      (stepped : state.connection.step config event = some connection) :
      Moves config state (.take event)
        { connection
          custody := fun side =>
            (state.custody side).after state.connection side event }
  | importProxy (side : Side) (index : Nat) (entry : Entry Object)
      (found : (state.custody side).offered[index]? = some entry) :
      Moves config state (.importProxy side index)
        (state.setCustody side
          { state.custody side with
            offered := (state.custody side).offered.eraseIdx index
            held := (state.custody side).held ++ [entry] })
  | dropHandle (side : Side) (index : Nat) (entry : Entry Object)
      (found : (state.custody side).offered[index]? = some entry) :
      Moves config state (.dropHandle side index)
        (state.setCustody side
          { state.custody side with
            offered := (state.custody side).offered.eraseIdx index
            lost := (state.custody side).lost ++ [entry] })
  | copyHandle (side : Side) (entry : Entry Object) :
      Moves config state (.copyHandle side entry)
        (state.setCustody side
          { state.custody side with
            offered := (state.custody side).offered ++ [entry] })
  | importNull (side : Side) :
      Moves config state (.importNull side)
        (state.setCustody side
          { state.custody side with
            nulls := (state.custody side).nulls + 1 })
  | dropNull (side : Side) (some : (state.custody side).nulls ≠ 0) :
      Moves config state (.dropNull side)
        (state.setCustody side
          { state.custody side with
            nulls := (state.custody side).nulls - 1 })
  | callMethod (side : Side) (index : Nat) (method : MethodId)
      (args : Bytes) (id : ServiceObjectId) (object : Object)
      (connection : Connection Object)
      (found : (state.custody side).held[index]? = some (id, object))
      (notNull : id ≠ nullId)
      (stepped :
        state.connection.step config
            ⟨side, .client (.invoke ⟨.newRequest, id, method, args⟩)⟩ =
          some connection) :
      Moves config state (.callMethod side index method args)
        { connection
          custody :=
            Function.update state.custody side
              { state.custody side with
                targets := (state.custody side).targets ++ [object] } }
  | dropProxy (side : Side) (index : Nat) (id : ServiceObjectId)
      (object : Object) (connection : Connection Object)
      (found : (state.custody side).held[index]? = some (id, object))
      (unused : state.unused side id = true)
      (collects : ¬ (id = nullId ∨ (state.custody side).noDrop))
      (stepped :
        state.connection.step config
            ⟨side,
              .client (.invoke ⟨.newRequest, id, deleteRequest, []⟩)⟩ =
          some connection) :
      Moves config state (.dropProxy side index)
        { connection
          custody :=
            Function.update state.custody side
              { state.custody side with
                held := (state.custody side).held.eraseIdx index
                dropped := (state.custody side).dropped ++ [(id, object)]
                targets := (state.custody side).targets ++ [object] } }
  | forgetProxy (side : Side) (index : Nat) (id : ServiceObjectId)
      (object : Object)
      (found : (state.custody side).held[index]? = some (id, object))
      (unused : state.unused side id = true)
      (silent : id = nullId ∨ (state.custody side).noDrop) :
      Moves config state (.dropProxy side index)
        (state.setCustody side
          { state.custody side with
            held := (state.custody side).held.eraseIdx index })
  | setNoDrop (side : Side) :
      Moves config state (.setNoDrop side)
        (state.setCustody side { state.custody side with noDrop := true })

theorem moves_of_step
    {config : Side → Config} {state target : ProxyState Object}
    {event : ProxyEvent Object}
    (stepped : state.step config event = some target) :
    Moves config state event target := by
  cases event with
  | take event =>
      by_cases invokes : event.event.invokes = true
      · rw [step, if_pos invokes] at stepped
        cases stepped
      · rw [step, if_neg invokes] at stepped
        obtain ⟨connection, taken, same⟩ :=
          Option.map_eq_some_iff.mp stepped
        rw [← same]
        exact .take event connection (eq_false_of_ne_true invokes) taken
  | importProxy side index =>
      obtain ⟨entry, found, same⟩ := Option.map_eq_some_iff.mp stepped
      rw [← same]
      exact .importProxy side index entry found
  | dropHandle side index =>
      obtain ⟨entry, found, same⟩ := Option.map_eq_some_iff.mp stepped
      rw [← same]
      exact .dropHandle side index entry found
  | copyHandle side entry =>
      cases stepped
      exact .copyHandle side entry
  | importNull side =>
      cases stepped
      exact .importNull side
  | dropNull side =>
      simp only [step] at stepped
      by_cases none : (state.custody side).nulls = 0
      · rw [if_pos none] at stepped
        cases stepped
      · rw [if_neg none] at stepped
        cases stepped
        exact .dropNull side none
  | callMethod side index method args =>
      simp only [step] at stepped
      split at stepped
      · rename_i id object found
        by_cases null : id = nullId
        · rw [if_pos null] at stepped
          cases stepped
        · rw [if_neg null] at stepped
          obtain ⟨connection, taken, same⟩ :=
            Option.map_eq_some_iff.mp stepped
          rw [← same]
          exact
            .callMethod side index method args id object connection found
              null taken
      · cases stepped
  | dropProxy side index =>
      simp only [step] at stepped
      split at stepped
      · rename_i id object found
        by_cases unused : state.unused side id = true
        · rw [if_pos unused] at stepped
          by_cases silent : id = nullId ∨ (state.custody side).noDrop
          · rw [if_pos silent] at stepped
            cases stepped
            exact .forgetProxy side index id object found unused silent
          · rw [if_neg silent] at stepped
            obtain ⟨connection, taken, same⟩ :=
              Option.map_eq_some_iff.mp stepped
            rw [← same]
            exact
              .dropProxy side index id object connection found unused
                silent taken
        · rw [if_neg unused] at stepped
          cases stepped
      · cases stepped
  | setNoDrop side =>
      cases stepped
      exact .setNoDrop side

end ProxyState

def proxySystem (Object : Type u) (config : Side → Config) :
    TransitionSystem (ProxyState Object) (ProxyEvent Object) where
  initial state :=
    ∃ metaService serviceObject : Side → Object, ∀ side,
      state.connection.ends side =
          .new (config side) (metaService side) (serviceObject side) ∧
        state.custody side =
          .new (metaService side.other) (serviceObject side.other)
  step := ProxyState.step config

/-! ## Entries of a custody -/

namespace Custody

variable {Object : Type u} {custody : Custody Object}
variable {connection : Connection Object} {side : Side}
variable {event : ConnectionEvent Object}

/-- What is held and what calls were made on does not change. -/
theorem exists_after :
    ∃ offered dropped,
      custody.after connection side event =
        { custody with offered := offered, dropped := dropped } := by
  unfold after
  dsimp only
  split
  · split
    · split
      · exact ⟨_, custody.dropped, rfl⟩
      · exact ⟨custody.offered, custody.dropped, rfl⟩
    · split
      · split
        · exact ⟨custody.offered, _, rfl⟩
        · exact ⟨custody.offered, custody.dropped, rfl⟩
      · exact ⟨custody.offered, custody.dropped, rfl⟩
    · exact ⟨custody.offered, custody.dropped, rfl⟩
  · exact ⟨custody.offered, custody.dropped, rfl⟩

theorem after_held :
    (custody.after connection side event).held = custody.held := by
  obtain ⟨offered, dropped, same⟩ := custody.exists_after
  rw [same]

theorem after_targets :
    (custody.after connection side event).targets = custody.targets := by
  obtain ⟨offered, dropped, same⟩ := custody.exists_after
  rw [same]

theorem after_of_other (other : event.side ≠ side.other) :
    custody.after connection side event = custody :=
  if_neg other

theorem after_of_client {mover : Side} {event : ClientEvent} :
    custody.after connection side ⟨mover, .client event⟩ = custody := by
  unfold after
  split <;> rfl

theorem after_of_insert {index : Nat} {entry : Entry Object}
    (found :
      (connection.ends side.other).server.registry.registering[index]? =
        some entry) :
    custody.after connection side ⟨side.other, .server (.insert index)⟩ =
      { custody with offered := custody.offered ++ [entry] } := by
  simp only [after, if_true, found]

theorem after_of_starts {request : Frame}
    (starts : connection.Starts side event request) :
    custody.after connection side event =
      if request.method = deleteRequest then
        { custody with
          dropped :=
            custody.dropped.eraseP fun entry =>
              entry.1 == request.serviceObjectId }
      else
        custody := by
  obtain ⟨mover, inner⟩ := event
  obtain ⟨rfl, index, rfl, found⟩ := starts
  simp only [after, if_true, found]

theorem after_of_rests
    (others : ∀ request, ¬ connection.Starts side event request)
    (exports : ∀ index, event ≠ ⟨side.other, .server (.insert index)⟩) :
    custody.after connection side event = custody := by
  obtain ⟨mover, inner⟩ := event
  by_cases other : mover = side.other
  · subst other
    simp only [after, if_true]
    split
    · exact absurd rfl (exports _)
    · split
      · rename_i index _ request found
        exact absurd ⟨rfl, index, rfl, found⟩ (others request)
      · rfl
    · rfl
  · exact after_of_other other

/-- An entry moves from the handles to the proxies. -/
theorem perm_importProxy {index : Nat} {entry : Entry Object}
    (found : custody.offered[index]? = some entry) :
    ({ custody with
        offered := custody.offered.eraseIdx index
        held := custody.held ++ [entry] } : Custody Object).entries.Perm
      custody.entries := by
  refine eraseIdx_append_perm found ?_
  rw [List.append_assoc]
  exact List.perm_middle

/-- An entry moves from the handles to the lost ones. -/
theorem perm_dropHandle {index : Nat} {entry : Entry Object}
    (found : custody.offered[index]? = some entry) :
    ({ custody with
        offered := custody.offered.eraseIdx index
        lost := custody.lost ++ [entry] } : Custody Object).entries.Perm
      custody.entries := by
  refine eraseIdx_append_perm found ?_
  rw [← List.append_assoc, ← List.append_assoc, ← List.append_assoc]
  exact List.perm_append_singleton _ _

/-- An entry moves from the proxies to the dropped ones. -/
theorem perm_dropProxy {index : Nat} {entry : Entry Object}
    (found : custody.held[index]? = some entry) (targets : List Object) :
    ({ custody with
        held := custody.held.eraseIdx index
        dropped := custody.dropped ++ [entry]
        targets := targets } : Custody Object).entries.Perm
      custody.entries := by
  refine List.Perm.append_left _ (eraseIdx_append_perm found ?_)
  exact (List.perm_append_singleton _ _).append_right _

/-- A dropped entry is done with. -/
theorem perm_of_dropped {first : Entry Object} {rest : List (Entry Object)}
    (perm : custody.dropped ~ first :: rest) :
    custody.entries ~
      first :: ({ custody with dropped := rest } : Custody Object).entries :=
  calc
    custody.offered ++ (custody.held ++ (custody.dropped ++ custody.lost))
    _ ~ custody.offered ++ (custody.held ++ (first :: rest ++ custody.lost)) :=
        ((perm.append_right _).append_left _).append_left _
    _ ~ custody.offered ++ first :: (custody.held ++ (rest ++ custody.lost)) :=
        List.perm_middle.append_left _
    _ ~ first ::
          (custody.offered ++ (custody.held ++ (rest ++ custody.lost))) :=
        List.perm_middle

end Custody

/-- A request to delete the object with this id. -/
def Content.Deletes (id : ServiceObjectId) (content : Content) : Prop :=
  content.method = deleteRequest ∧ content.serviceObjectId = id

instance (id : ServiceObjectId) : DecidablePred (Content.Deletes id) :=
  fun _ => inferInstanceAs (Decidable (_ ∧ _))

/-- No id is held twice, every entry is for the object that is registered
under its id, and every delete request that is outstanding is that of a
dropped proxy. -/
structure Custody.Valid {Object : Type u} (custody : Custody Object)
    (connection : Connection Object) (side : Side) : Prop where
  once : ∀ id, custody.entries.countP (fun entry => entry.1 == id) ≤ 1
  registered :
    ∀ entry ∈ custody.entries,
      connection.objects side entry.1 = some entry.2
  deletes :
    ∀ id, (connection.outstanding side).countP (Content.Deletes id) ≤
      custody.dropped.countP fun entry => entry.1 == id

namespace Custody.Valid

variable {Object : Type u} {custody next : Custody Object}
variable {source target : Connection Object} {side : Side}
variable {event : ConnectionEvent Object}

/-- The proxy that a delete request comes from. -/
theorem exists_dropped (valid : custody.Valid source side)
    {content : Content} (member : content ∈ source.outstanding side)
    (delete : content.method = deleteRequest) :
    ∃ entry ∈ custody.dropped, entry.1 = content.serviceObjectId := by
  have asked :
      0 < (source.outstanding side).countP
        (Content.Deletes content.serviceObjectId) :=
    Multiset.countP_pos.mpr ⟨content, member, delete, rfl⟩
  have bound := valid.deletes content.serviceObjectId
  have positive :
      0 < custody.dropped.countP fun entry =>
        entry.1 == content.serviceObjectId := by
    omega
  obtain ⟨entry, dropped, same⟩ := List.countP_pos_iff.mp positive
  exact ⟨entry, dropped, eq_of_beq same⟩

theorem mem_of_dropped {entry : Entry Object}
    (member : entry ∈ custody.dropped) : entry ∈ custody.entries :=
  List.mem_append_right _
    (List.mem_append_right _ (List.mem_append_left _ member))

/-- Nobody can call the object of a dropped proxy. -/
theorem ne_of_dropped (valid : custody.Valid source side)
    {entry other : Entry Object} (dropped : entry ∈ custody.dropped)
    (among : other ∈ custody.offered ++ custody.held) :
    other.1 ≠ entry.1 := by
  intro same
  have bound := valid.once entry.1
  have once :
      0 < (custody.offered ++ custody.held).countP
        fun other => other.1 == entry.1 :=
    List.countP_pos_iff.mpr ⟨other, among, beq_iff_eq.mpr same⟩
  have twice :
      0 < custody.dropped.countP fun other => other.1 == entry.1 :=
    List.countP_pos_iff.mpr ⟨entry, dropped, beq_self_eq_true _⟩
  rw [entries] at bound
  simp only [List.countP_append] at bound once
  omega

theorem registered_of_deletes (valid : custody.Valid source side)
    {content : Content} (asked : content ∈ source.outstanding side)
    (delete : content.method = deleteRequest) :
    ∃ object,
      source.objects side content.serviceObjectId = some object := by
  obtain ⟨entry, dropped, same⟩ := valid.exists_dropped asked delete
  rw [← same]
  exact ⟨entry.2, valid.registered entry (mem_of_dropped dropped)⟩

/-- The entry that goes when its delete request is started. -/
theorem exists_started (valid : custody.Valid source side)
    {request : Frame} (asked : request.content ∈ source.outstanding side)
    (delete : request.method = deleteRequest) :
    ∃ first : Entry Object, first.1 = request.serviceObjectId ∧
      custody.dropped ~
        first :: custody.dropped.eraseP fun entry =>
          entry.1 == request.serviceObjectId := by
  obtain ⟨entry, dropped, same⟩ := valid.exists_dropped asked delete
  obtain ⟨first, isFirst, perm⟩ :
      ∃ first : Entry Object,
        (first.1 == request.serviceObjectId) = true ∧
          custody.dropped ~
            first :: custody.dropped.eraseP fun entry =>
              entry.1 == request.serviceObjectId :=
    exists_perm_eraseP dropped (beq_iff_eq.mpr same)
  exact ⟨first, eq_of_beq isFirst, perm⟩

/-- Nothing but the list of entries changes. -/
theorem of_fewer (valid : custody.Valid source side)
    (fewer : next.entries.Subperm custody.entries)
    (dropped : next.dropped = custody.dropped) :
    next.Valid source side where
  once id := (fewer.countP_le _).trans (valid.once id)
  registered entry member := valid.registered entry (fewer.subset member)
  deletes id := by
    rw [dropped]
    exact valid.deletes id

/-- Requests are handled or get lost, and the objects stay. -/
theorem of_le (valid : custody.Valid source side)
    (fewer : target.outstanding side ≤ source.outstanding side)
    (objects : target.objects side = source.objects side) :
    custody.Valid target side where
  once := valid.once
  registered entry member := by
    rw [objects]
    exact valid.registered entry member
  deletes id :=
    (Multiset.countP_le_of_le _ fewer).trans (valid.deletes id)

private theorem of_deletes (valid : custody.Valid source side)
    {request : Frame} (delete : request.method = deleteRequest)
    (taken :
      source.outstanding side =
        request.content ::ₘ target.outstanding side)
    (objects :
      target.objects side =
        Function.update (source.objects side) request.serviceObjectId
          none) :
    ({ custody with
        dropped :=
          custody.dropped.eraseP fun entry =>
            entry.1 == request.serviceObjectId } : Custody Object).Valid
      target side := by
  have asked : request.content ∈ source.outstanding side := by
    rw [taken]
    exact Multiset.mem_cons_self _ _
  obtain ⟨first, isFirst, perm⟩ := valid.exists_started asked delete
  generalize custody.dropped.eraseP (fun entry =>
    entry.1 == request.serviceObjectId) = rest at perm ⊢
  have whole := perm_of_dropped perm
  have gone : ∀ other ∈ ({ custody with dropped := rest } :
      Custody Object).entries, other.1 ≠ request.serviceObjectId := by
    intro other member isSame
    have bound := valid.once request.serviceObjectId
    rw [whole.countP_eq, List.countP_cons,
      if_pos (beq_iff_eq.mpr isFirst)] at bound
    have positive :
        0 < ({ custody with dropped := rest } :
          Custody Object).entries.countP fun entry =>
            entry.1 == request.serviceObjectId :=
      List.countP_pos_iff.mpr ⟨other, member, beq_iff_eq.mpr isSame⟩
    omega
  refine ⟨?_, ?_, ?_⟩
  · intro id
    have bound := valid.once id
    rw [whole.countP_eq, List.countP_cons] at bound
    omega
  · intro other member
    rw [objects, Function.update_of_ne (gone other member)]
    exact valid.registered other (whole.mem_iff.mpr (.tail _ member))
  · intro id
    show _ ≤ rest.countP _
    have bound := valid.deletes id
    rw [taken, Multiset.countP_cons, perm.countP_eq, List.countP_cons]
      at bound
    by_cases isId : request.serviceObjectId = id
    · have deletes : Content.Deletes id request.content := ⟨delete, isId⟩
      have counted : (first.1 == id) = true :=
        beq_iff_eq.mpr (isFirst.trans isId)
      rw [if_pos deletes, if_pos counted] at bound
      omega
    · have different : ¬ (first.1 == id) = true := by
        rw [isFirst, beq_iff_eq]
        exact isId
      rw [if_neg different] at bound
      omega

private theorem of_exports (valid : custody.Valid source side)
    {id : ServiceObjectId} {object : Object}
    (free : source.objects side id = none)
    (fewer : target.outstanding side ≤ source.outstanding side)
    (objects :
      target.objects side =
        Function.update (source.objects side) id (some object)) :
    ({ custody with
        offered := custody.offered ++ [(id, object)] } :
          Custody Object).Valid target side := by
  have other : ∀ entry ∈ custody.entries, entry.1 ≠ id := by
    rintro entry member rfl
    rw [valid.registered entry member] at free
    cases free
  have whole :
      ({ custody with
          offered := custody.offered ++ [(id, object)] } :
            Custody Object).entries ~ (id, object) :: custody.entries := by
    show custody.offered ++ [(id, object)] ++ _ ~ _
    rw [List.append_assoc]
    exact List.perm_middle
  refine ⟨?_, ?_, ?_⟩
  · intro wanted
    rw [whole.countP_eq, List.countP_cons]
    by_cases same : id = wanted
    · have none : custody.entries.countP (fun entry => entry.1 == wanted) =
          0 := by
        rw [List.countP_eq_zero]
        intro entry member isSame
        exact other entry member ((eq_of_beq isSame).trans same.symm)
      rw [none]
      split <;> omega
    · have different : ¬ (id == wanted) = true := by
        rw [beq_iff_eq]
        exact same
      rw [if_neg different]
      exact valid.once wanted
  · intro entry member
    rw [objects]
    rcases List.mem_cons.mp (whole.mem_iff.mp member) with rfl | earlier
    · exact Function.update_self _ _ _
    · rw [Function.update_of_ne (other entry earlier)]
      exact valid.registered entry earlier
  · exact fun id =>
      (Multiset.countP_le_of_le _ fewer).trans (valid.deletes id)

/-- Handling requests keeps a custody valid, as long as no id is given to an
object while another one has it. -/
theorem serves (valid : custody.Valid source side)
    (serves : source.Serves side event target)
    (fresh : ∀ entry ∈
      (source.ends side.other).server.registry.registering,
        source.objects side entry.1 = none) :
    (custody.after source side event).Valid target side := by
  have left {content : Content}
      (taken :
        source.outstanding side = content ::ₘ target.outstanding side) :
      target.outstanding side ≤ source.outstanding side := by
    rw [taken]
    exact Multiset.le_cons_self _ _
  cases serves with
  | deletes request starts delete registered taken objects =>
      rw [after_of_starts starts, if_pos delete]
      exact valid.of_deletes delete taken objects
  | calls request object starts call registered taken objects =>
      rw [after_of_starts starts, if_neg call]
      exact valid.of_le (left taken) objects
  | panics request starts unknown taken objects =>
      have call : request.method ≠ deleteRequest := by
        intro delete
        have asked : request.content ∈ source.outstanding side := by
          rw [taken]
          exact Multiset.mem_cons_self _ _
        obtain ⟨object, known⟩ := valid.registered_of_deletes asked delete
        cases known.symm.trans unknown
      rw [after_of_starts starts, if_neg call]
      exact valid.of_le (left taken) objects
  | exports index id object inserts found drops objects =>
      subst inserts
      rw [after_of_insert found]
      exact
        valid.of_exports (fresh _ (List.mem_of_getElem? found)) drops.le
          objects
  | rests others exports drops objects =>
      rw [after_of_rests others exports]
      exact valid.of_le drops.le objects

private theorem objects_of_invokes {request : Frame}
    (invokes : source.Invokes side request target) :
    target.objects side = source.objects side := by
  unfold Connection.objects
  rw [invokes.server]

theorem callMethod (valid : custody.Valid source side) {request : Frame}
    (invokes : source.Invokes side request target)
    (call : request.method ≠ deleteRequest) (targets : List Object) :
    ({ custody with targets := targets } : Custody Object).Valid target
      side where
  once := valid.once
  registered entry member := by
    rw [objects_of_invokes invokes]
    exact valid.registered entry member
  deletes id := by
    have notDelete : ¬ Content.Deletes id request.content :=
      fun deletes => call deletes.1
    rw [invokes.outstanding, Multiset.countP_cons, if_neg notDelete]
    exact valid.deletes id

theorem dropProxy (valid : custody.Valid source side) {index : Nat}
    {id : ServiceObjectId} {object : Object} {request : Frame}
    (found : custody.held[index]? = some (id, object))
    (invokes : source.Invokes side request target)
    (same : request.serviceObjectId = id) (targets : List Object) :
    ({ custody with
        held := custody.held.eraseIdx index
        dropped := custody.dropped ++ [(id, object)]
        targets := targets } : Custody Object).Valid target side := by
  have perm := perm_dropProxy found targets
  refine ⟨?_, ?_, ?_⟩
  · intro wanted
    rw [perm.countP_eq]
    exact valid.once wanted
  · intro entry member
    rw [objects_of_invokes invokes]
    exact valid.registered entry (perm.mem_iff.mp member)
  · intro wanted
    show _ ≤ (custody.dropped ++ [(id, object)]).countP _
    have bound := valid.deletes wanted
    rw [invokes.outstanding, Multiset.countP_cons, List.countP_append,
      List.countP_singleton]
    by_cases isWanted : id = wanted
    · have counted : (id == wanted) = true := beq_iff_eq.mpr isWanted
      rw [if_pos counted]
      split <;> omega
    · have other : ¬ Content.Deletes wanted request.content :=
        fun deletes => isWanted (same.symm.trans deletes.2)
      rw [if_neg other]
      omega

theorem new {config : Side → Config} {metaService serviceObject : Object}
    {connection : Connection Object}
    (own : ∃ metaService serviceObject,
      connection.ends side =
        .new (config side) metaService serviceObject)
    (others :
      connection.ends side.other =
        .new (config side.other) metaService serviceObject) :
    (Custody.new metaService serviceObject).Valid connection side := by
  have objects :
      connection.objects side =
        Function.update
          (Function.update (fun _ => none) metaServiceObjectId
            (some metaService))
          initialServiceObjectId (some serviceObject) := by
    unfold Connection.objects
    rw [others]
    rfl
  refine ⟨?_, ?_, ?_⟩
  · intro id
    simp only [entries, Custody.new, List.append_nil, List.cons_append,
      List.nil_append, List.countP_cons, List.countP_nil, zero_add]
    by_cases isMeta : metaServiceObjectId = id
    · have different : initialServiceObjectId ≠ metaServiceObjectId := by
        decide
      rw [← isMeta]
      simp [different]
    · simp only [beq_iff_eq, if_neg isMeta, zero_add]
      split <;> omega
  · intro entry member
    rw [objects]
    simp only [entries, Custody.new, List.append_nil, List.cons_append,
      List.nil_append, List.mem_cons, List.not_mem_nil, or_false] at member
    rcases member with rfl | rfl
    · exact Function.update_self _ _ _
    · rfl
  · intro id
    have nothing : connection.outstanding side = 0 := by
      obtain ⟨ownMeta, ownObject, same⟩ := own
      unfold Connection.outstanding
      rw [same, others]
      rfl
    rw [nothing]
    exact Nat.zero_le _

end Custody.Valid

/-! ## Every run -/

/-- Nobody clears a registry or copies a handle, and no method has the number
of a delete request. -/
def Kept {Object : Type u} (_state : ProxyState Object) :
    ProxyEvent Object → Prop
  | .take event => event.event ≠ .server .clear
  | .callMethod _ _ method _ => method ≠ deleteRequest
  | .copyHandle _ _ => False
  | .importProxy _ _ | .dropHandle _ _ | .importNull _ | .dropNull _
  | .dropProxy _ _ | .setNoDrop _ => True

section Runs

variable {Object : Type u} {config : Side → Config}
variable {state : ProxyState Object}

/-- The connection takes part in every run. -/
theorem ProxyState.connection_of_reached
    {allowed : ProxyState Object → ProxyEvent Object → Prop}
    {admitted : Connection Object → ConnectionEvent Object → Prop}
    (takes : ∀ state event, allowed state (.take event) →
      admitted state.connection event)
    (invokes : ∀ connection side request,
      admitted connection ⟨side, .client (.invoke request)⟩)
    (reached : (proxySystem Object config).ReachableWhere allowed state) :
    (connectionSystem Object config).ReachableWhere admitted
      state.connection := by
  refine
    TransitionSystem.reachableWhere_project ProxyState.connection ?_ ?_
      reached
  · rintro source ⟨metaService, serviceObject, begins⟩ side
    exact ⟨_, _, (begins side).1⟩
  · intro source event target isAllowed stepped
    cases ProxyState.moves_of_step stepped with
    | take event connection other taken =>
        exact Or.inr ⟨event, takes source event isAllowed, taken⟩
    | callMethod side _ method args id _ _ _ _ taken =>
        exact Or.inr ⟨_, invokes _ side _, taken⟩
    | dropProxy side _ id _ _ _ _ _ taken =>
        exact Or.inr ⟨_, invokes _ side _, taken⟩
    | importProxy | dropHandle | copyHandle | importNull | dropNull
    | forgetProxy | setNoDrop =>
        exact Or.inl rfl

theorem ProxyState.reachable_connection
    (reachable : (proxySystem Object config).Reachable state) :
    (connectionSystem Object config).Reachable state.connection :=
  ProxyState.connection_of_reached (fun _ _ _ => trivial)
    (fun _ _ _ => trivial) reachable

def ProxyState.Valid (state : ProxyState Object) : Prop :=
  ∀ side, (state.custody side).Valid state.connection side

theorem ProxyState.Valid.setCustody (valid : state.Valid) {side : Side}
    {custody : Custody Object}
    (own : custody.Valid state.connection side) :
    (state.setCustody side custody).Valid := by
  intro other
  by_cases same : other = side
  · subst same
    simp only [ProxyState.setCustody, Function.update_self]
    exact own
  · simp only [ProxyState.setCustody, Function.update_of_ne same]
    exact valid other

/-- A thread that registers an object holds an id that no object has. -/
theorem Connection.fresh_of_reachable
    {connection : Connection Object}
    (reachable : (connectionSystem Object config).Reachable connection)
    (side : Side) :
    ∀ entry ∈
      (connection.ends side.other).server.registry.registering,
        connection.objects side entry.1 = none := by
  intro entry member
  have once :=
    idsOnce_of_reachable
      (Connection.reachable_registry reachable side.other)
  exact
    ServiceForwarder.not_registered_of_registering once.places_le_one member

/-- A step of the connection that starts no call of a side. -/
theorem Custody.Valid.stepsTo
    {custody : Custody Object} {source target : Connection Object}
    {event : ConnectionEvent Object} {packets : List Frame} {side : Side}
    (valid : custody.Valid source side)
    (reachable : (connectionSystem Object config).Reachable source)
    (taken : source.StepsTo config event target packets)
    (goesOn : event.side = side →
      ∀ request, event.event ≠ .client (.invoke request))
    (kept : event.event ≠ .server .clear) :
    (custody.after source side event).Valid target side :=
  valid.serves (taken.serves side goesOn kept)
    (Connection.fresh_of_reachable reachable side)

private theorem valid_of_call
    {connection : Connection Object} {side : Side} {request : Frame}
    {custody : Custody Object} (valid : state.Valid)
    (reachable :
      (connectionSystem Object config).Reachable state.connection)
    (stepped :
      state.connection.step config ⟨side, .client (.invoke request)⟩ =
        some connection)
    (own :
      state.connection.Invokes side request connection →
        custody.Valid connection side) :
    (ProxyState.mk connection
      (Function.update state.custody side custody)).Valid := by
  obtain ⟨packets, taken⟩ := Connection.stepsTo_of_step stepped
  intro other
  by_cases same : other = side
  · subst same
    simp only [Function.update_self]
    exact own taken.invokes
  · simp only [Function.update_of_ne same]
    have moved :=
      (valid other).stepsTo reachable taken
        (fun mover => absurd mover.symm same) (by simp)
    rwa [Custody.after_of_client] at moved

theorem ProxyState.valid_of_reached
    (reached : (proxySystem Object config).ReachableWhere Kept state) :
    state.Valid := by
  refine reached.invariant_of_reached ?_ ?_
  · rintro source ⟨metaService, serviceObject, begins⟩ side
    rw [(begins side).2]
    exact .new ⟨_, _, (begins side).1⟩ (begins side.other).1
  · intro source event target before valid kept stepped
    have reachable := ProxyState.reachable_connection before.reachable
    cases ProxyState.moves_of_step stepped with
    | take event connection other taken =>
        obtain ⟨packets, taken⟩ := Connection.stepsTo_of_step taken
        intro side
        refine (valid side).stepsTo reachable taken ?_ kept
        intro _ request same
        rw [same] at other
        cases other
    | importProxy side index entry found =>
        have perm := Custody.perm_importProxy found
        exact
          valid.setCustody ((valid side).of_fewer perm.subperm rfl)
    | dropHandle side index entry found =>
        have perm := Custody.perm_dropHandle found
        exact
          valid.setCustody ((valid side).of_fewer perm.subperm rfl)
    | copyHandle side entry =>
        exact kept.elim
    | callMethod side index method args id object connection found notNull
        taken =>
        exact
          valid_of_call valid reachable taken fun invokes =>
            (valid side).callMethod invokes kept _
    | dropProxy side index id object connection found unused collects
        taken =>
        exact
          valid_of_call valid reachable taken fun invokes =>
            (valid side).dropProxy found invokes rfl _
    | forgetProxy side index id object found unused silent =>
        refine valid.setCustody ((valid side).of_fewer ?_ rfl)
        have fewer :=
          (List.eraseIdx_sublist (source.custody side).held index).append_right
            ((source.custody side).dropped ++ (source.custody side).lost)
        exact (fewer.append_left _).subperm
    | importNull side | dropNull side _ | setNoDrop side =>
        exact valid.setCustody ((valid side).of_fewer (.refl _) rfl)

/-- Whatever fails: no two handles or proxies of a side name the same object,
and every one of them names the object that it was given for, which is still
registered and whose id is not free. -/
theorem proxied_objects_stay_registered
    (reached : (proxySystem Object config).ReachableWhere Kept state)
    (side : Side) :
    (((state.custody side).offered ++ (state.custody side).held).map
        Prod.fst).Nodup ∧
      ∀ entry ∈ (state.custody side).offered ++ (state.custody side).held,
        (state.connection.ends side.other).server.registry.serviceObjects
            entry.1 = some entry.2 ∧
          entry.1 ∉
            (state.connection.ends
              side.other).server.registry.availableIds ∧
          entry.1 ≠ nullId := by
  have valid := ProxyState.valid_of_reached reached side
  have reachable := ProxyState.reachable_connection reached.reachable
  have ids :=
    idsOnce_of_reachable
      (Connection.reachable_registry reachable side.other)
  have split :
      (state.custody side).entries =
        (state.custody side).offered ++ (state.custody side).held ++
          ((state.custody side).dropped ++ (state.custody side).lost) :=
    (List.append_assoc _ _ _).symm
  constructor
  · rw [List.nodup_iff_count_le_one]
    intro id
    have bound := valid.once id
    rw [split, List.countP_append] at bound
    rw [List.count, List.countP_map]
    exact (Nat.le_add_right _ _).trans bound
  · intro entry member
    have among : entry ∈ (state.custody side).entries := by
      rw [split]
      exact List.mem_append_left _ member
    have registered := valid.registered entry among
    obtain ⟨notFree, managed⟩ :=
      ids.of_registered (Option.isSome_iff_exists.mpr ⟨_, registered⟩)
    exact ⟨registered, notFree, managed.ne_nullId⟩

end Runs

/-! ## A call through a proxy -/

def freshProxies : ProxyState Nat where
  connection := freshConnection
  custody _ := .new 10 11

theorem freshProxies_initial :
    (proxySystem Nat fun _ => smallConfig).initial freshProxies :=
  ⟨fun _ => 10, fun _ => 11, fun _ => ⟨rfl, rfl⟩⟩

/-- The right end does not want the initial service of the left one.  The left
end makes its own handle into a proxy and calls it; the right end takes the
request. -/
def proxiedCall : List (ProxyEvent Nat) :=
  [.dropHandle .right 0,
    .importProxy .left 0,
    .callMethod .left 1 70 [1],
    .take ⟨.left, .client (.pop 0)⟩,
    .take ⟨.left, .client (.send 0 .sent)⟩,
    .take ⟨.right, .multiplexer (.deliver 0)⟩,
    .take ⟨.right, .multiplexer .forward⟩,
    .take ⟨.right, .serverReceive⟩]

theorem proxiedCall_replays :
    ((proxySystem Nat fun _ => smallConfig).run freshProxies
      proxiedCall).isSome := by
  decide

def queuedCall : ProxyState Nat :=
  ((proxySystem Nat fun _ => smallConfig).run freshProxies
    proxiedCall).get proxiedCall_replays

theorem queuedCall_kept :
    (proxySystem Nat fun _ => smallConfig).ReachableWhere Kept
      queuedCall := by
  refine ⟨freshProxies, freshProxies_initial, ?_⟩
  refine
    TransitionSystem.runsWhere_of_forall_mem
      (Option.some_get proxiedCall_replays).symm ?_
  simp [proxiedCall, Kept, deleteRequest]

theorem proxied_objects_stay_registered_queuedCall :
    (((queuedCall.custody .left).offered ++
        (queuedCall.custody .left).held).map Prod.fst).Nodup ∧
      ∀ entry ∈
        (queuedCall.custody .left).offered ++
          (queuedCall.custody .left).held,
        (queuedCall.connection.ends .right).server.registry.serviceObjects
            entry.1 = some entry.2 ∧
          entry.1 ∉
            (queuedCall.connection.ends
              .right).server.registry.availableIds ∧
          entry.1 ≠ nullId :=
  proxied_objects_stay_registered queuedCall_kept .left

end CloudP2P.Rpc
