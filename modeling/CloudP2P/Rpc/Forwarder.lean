import CloudP2P.Bookkeeping
import CloudP2P.TransitionSystem
import CloudP2P.Rpc.Packet
import Mathlib.Logic.Function.Basic

/-!
# The registry of exported services

`ServiceForwarder` keeps the exported objects and a queue of free object ids,
each behind a lock of its own.  `register_service_object` takes an id under
the one lock and inserts the object under the other, `delete` removes the
object and then gives its id back; other threads may run in between, so the
two halves of each are steps of their own.
-/

universe u

namespace CloudP2P.Rpc

/-- `DELETE_REQUEST` -/
def deleteRequest : MethodId := 4294967295

/-- `META_SERVICE_OBJECT_ID` -/
def metaServiceObjectId : ServiceObjectId := 0

/-- `INITIAL_SERVICE_OBJECT_ID` -/
def initialServiceObjectId : ServiceObjectId := 1

/-- `NULL_ID` -/
def nullId : ServiceObjectId := 4294967295

structure ServiceForwarder (Object : Type u) where
  serviceObjects : ServiceObjectId → Option Object
  availableIds : List ServiceObjectId
  /-- Threads inside `register_service_object` that hold an id. -/
  registering : List (ServiceObjectId × Object)
  /-- Threads inside `delete` that have removed the object; a destructor that
  panics there leaves its id here. -/
  deleting : List ServiceObjectId

inductive ForwarderEvent (Object : Type u) where
  | popFront (object : Object)
  | insert (index : Nat)
  | remove (id : ServiceObjectId)
  | pushBack (id : ServiceObjectId)
  | clear

/-- The ids that `new` puts into the queue, in order. -/
def initialIds (maximumServicesNum : Nat) : List ServiceObjectId :=
  ((List.range (maximumServicesNum % 2 ^ 32)).map UInt32.ofNat).filter
    fun id => id != metaServiceObjectId && id != initialServiceObjectId

namespace ServiceForwarder

variable {Object : Type u}

def new (maximumServicesNum : Nat) (metaService serviceObject : Object) :
    ServiceForwarder Object where
  serviceObjects :=
    Function.update
      (Function.update (fun _ => none) metaServiceObjectId
        (some metaService))
      initialServiceObjectId (some serviceObject)
  availableIds := initialIds maximumServicesNum
  registering := []
  deleting := []

/-- One half of an operation.  A disabled `popFront` is the panic of an
exhausted queue, a disabled `remove` that of an unknown object; neither
changes the registry. -/
def step (forwarder : ServiceForwarder Object) :
    ForwarderEvent Object → Option (ServiceForwarder Object)
  | .popFront object =>
      match forwarder.availableIds with
      | [] => none
      | id :: rest =>
          some
            { forwarder with
              availableIds := rest
              registering := (id, object) :: forwarder.registering }
  | .insert index =>
      (forwarder.registering[index]?).map fun (id, object) =>
        { forwarder with
          serviceObjects :=
            Function.update forwarder.serviceObjects id (some object)
          registering := forwarder.registering.eraseIdx index }
  | .remove id =>
      if (forwarder.serviceObjects id).isSome then
        some
          { forwarder with
            serviceObjects :=
              Function.update forwarder.serviceObjects id none
            deleting := id :: forwarder.deleting }
      else
        none
  | .pushBack id =>
      if id ∈ forwarder.deleting then
        some
          { forwarder with
            availableIds := forwarder.availableIds ++ [id]
            deleting := forwarder.deleting.erase id }
      else
        none
  -- `clear` does not restore the ids
  | .clear => some { forwarder with serviceObjects := fun _ => none }

/-- Everything that one step of the registry can do, with its guards. -/
inductive Moves (forwarder : ServiceForwarder Object) :
    ForwarderEvent Object → ServiceForwarder Object → Prop where
  | popFront (object : Object) (id : ServiceObjectId)
      (rest : List ServiceObjectId)
      (front : forwarder.availableIds = id :: rest) :
      Moves forwarder (.popFront object)
        { forwarder with
          availableIds := rest
          registering := (id, object) :: forwarder.registering }
  | insert (index : Nat) (id : ServiceObjectId) (object : Object)
      (found : forwarder.registering[index]? = some (id, object)) :
      Moves forwarder (.insert index)
        { forwarder with
          serviceObjects :=
            Function.update forwarder.serviceObjects id (some object)
          registering := forwarder.registering.eraseIdx index }
  | remove (id : ServiceObjectId)
      (registered : (forwarder.serviceObjects id).isSome) :
      Moves forwarder (.remove id)
        { forwarder with
          serviceObjects :=
            Function.update forwarder.serviceObjects id none
          deleting := id :: forwarder.deleting }
  | pushBack (id : ServiceObjectId)
      (removed : id ∈ forwarder.deleting) :
      Moves forwarder (.pushBack id)
        { forwarder with
          availableIds := forwarder.availableIds ++ [id]
          deleting := forwarder.deleting.erase id }
  | clear :
      Moves forwarder .clear
        { forwarder with serviceObjects := fun _ => none }

theorem moves_of_step
    {forwarder target : ServiceForwarder Object}
    {event : ForwarderEvent Object}
    (stepped : forwarder.step event = some target) :
    Moves forwarder event target := by
  cases event with
  | popFront object =>
      cases front : forwarder.availableIds with
      | nil =>
          simp [step, front] at stepped
      | cons id rest =>
          simp only [step, front, Option.some.injEq] at stepped
          rw [← stepped]
          exact .popFront object id rest front
  | insert index =>
      obtain ⟨⟨id, object⟩, found, same⟩ :=
        Option.map_eq_some_iff.mp stepped
      rw [← same]
      exact .insert index id object found
  | remove id =>
      by_cases registered : (forwarder.serviceObjects id).isSome
      · rw [step, if_pos registered] at stepped
        cases stepped
        exact .remove id registered
      · rw [step, if_neg registered] at stepped
        cases stepped
  | pushBack id =>
      by_cases removed : id ∈ forwarder.deleting
      · rw [step, if_pos removed] at stepped
        cases stepped
        exact .pushBack id removed
      · rw [step, if_neg removed] at stepped
        cases stepped
  | clear =>
      cases stepped
      exact .clear

/-- Neither half of `delete` looks at the ids that are being registered. -/
theorem registering_of_delete
    {forwarder target : ServiceForwarder Object} {id : ServiceObjectId}
    (stepped :
      forwarder.step (.remove id) = some target ∨
        forwarder.step (.pushBack id) = some target) :
    target.registering = forwarder.registering := by
  rcases stepped with stepped | stepped <;>
    cases moves_of_step stepped <;> rfl

theorem length_registering_of_insert
    {forwarder target : ServiceForwarder Object} {index : Nat}
    (stepped : forwarder.step (.insert index) = some target) :
    target.registering.length + 1 = forwarder.registering.length := by
  cases moves_of_step stepped with
  | insert _ id object found =>
      obtain ⟨valid, _⟩ := List.getElem?_eq_some_iff.mp found
      exact List.length_eraseIdx_add_one valid

/-- The ids of objects, of the queue, and of operations under way. -/
def places (forwarder : ServiceForwarder Object)
    (id : ServiceObjectId) : Nat :=
  forwarder.availableIds.count id +
    forwarder.registering.countP (fun entry => entry.1 == id) +
    forwarder.deleting.count id +
    (if (forwarder.serviceObjects id).isSome then 1 else 0)

variable {forwarder : ServiceForwarder Object}

private theorem places_update (objects : ServiceObjectId → Option Object)
    (changed id : ServiceObjectId) (value : Option Object) :
    (if (Function.update objects changed value id).isSome then 1 else 0) =
      if changed = id then (if value.isSome then 1 else 0)
      else if (objects id).isSome then 1 else 0 := by
  by_cases same : changed = id
  · rw [same, Function.update_self, if_pos rfl]
  · rw [Function.update_of_ne (Ne.symm same), if_neg same]

theorem not_registered_of_registering
    (once : ∀ id, forwarder.places id ≤ 1)
    {entry : ServiceObjectId × Object}
    (member : entry ∈ forwarder.registering) :
    forwarder.serviceObjects entry.1 = none := by
  have counted :
      0 < forwarder.registering.countP
        fun other => other.1 == entry.1 := by
    rw [List.countP_pos_iff]
    exact ⟨entry, member, beq_self_eq_true entry.1⟩
  have bound := once entry.1
  unfold places at bound
  by_contra registered
  rw [if_pos (Option.isSome_iff_ne_none.mpr registered)] at bound
  omega

/-- Every operation but `clear` moves an id from one place to another. -/
theorem Moves.places_eq
    {target : ServiceForwarder Object} {event : ForwarderEvent Object}
    (moves : Moves forwarder event target) (kept : event ≠ .clear)
    (once : ∀ id, forwarder.places id ≤ 1) (id : ServiceObjectId) :
    target.places id = forwarder.places id := by
  cases moves with
  | popFront object taken rest front =>
      unfold places
      simp only [front, List.count_cons, List.countP_cons]
      omega
  | insert index inserted object found =>
      have absent :=
        not_registered_of_registering once (List.mem_of_getElem? found)
      have removed :=
        countP_eraseIdx_add (fun entry => entry.1 == id) found
      unfold places
      rw [places_update]
      by_cases same : inserted = id
      · subst same
        simp only [beq_self_eq_true, if_true] at removed
        simp only [absent, Option.isSome_none, Option.isSome_some,
          Bool.false_eq_true, if_true, if_false]
        omega
      · have different : (inserted == id) = false := by simpa using same
        simp only [different, Bool.false_eq_true, if_false] at removed
        simp only [if_neg same]
        omega
  | remove removed registered =>
      unfold places
      rw [places_update, List.count_cons]
      by_cases same : removed = id
      · subst same
        simp only [beq_self_eq_true, registered, Option.isSome_none,
          Bool.false_eq_true, if_true, if_false]
        omega
      · have different : (removed == id) = false := by simpa using same
        simp only [different, if_neg same, Bool.false_eq_true, if_false]
        omega
  | pushBack pushed member =>
      unfold places
      have counted : 0 < forwarder.deleting.count pushed :=
        List.count_pos_iff.mpr member
      rw [List.count_append, List.count_erase, List.count_singleton]
      by_cases same : pushed = id
      · subst same
        simp only [beq_self_eq_true, if_true]
        omega
      · have different : (pushed == id) = false := by simpa using same
        simp only [different, Bool.false_eq_true, if_false]
        omega
  | clear =>
      exact absurd rfl kept

theorem Moves.places_le
    {target : ServiceForwarder Object} {event : ForwarderEvent Object}
    (moves : Moves forwarder event target)
    (once : ∀ id, forwarder.places id ≤ 1) (id : ServiceObjectId) :
    target.places id ≤ forwarder.places id := by
  by_cases cleared : event = .clear
  · subst cleared
    cases moves
    unfold places
    simp only [Option.isSome_none, Bool.false_eq_true, if_false]
    omega
  · exact (moves.places_eq cleared once id).le

end ServiceForwarder

def forwarderSystem (Object : Type u) (maximumServicesNum : Nat) :
    TransitionSystem (ServiceForwarder Object) (ForwarderEvent Object) where
  initial forwarder :=
    ∃ metaService serviceObject,
      forwarder = .new maximumServicesNum metaService serviceObject
  step := ServiceForwarder.step

/-- The ids that a registry works with. -/
def Managed (maximumServicesNum : Nat) (id : ServiceObjectId) : Prop :=
  id ∈ initialIds maximumServicesNum ∨
    id = metaServiceObjectId ∨ id = initialServiceObjectId

instance (maximumServicesNum : Nat) (id : ServiceObjectId) :
    Decidable (Managed maximumServicesNum id) :=
  inferInstanceAs (Decidable (_ ∨ _ ∨ _))

section Runs

variable {Object : Type u} {maximumServicesNum : Nat}
variable {forwarder : ServiceForwarder Object}

theorem ofNat_inj_of_lt {left right : Nat}
    (leftBound : left < 2 ^ 32) (rightBound : right < 2 ^ 32)
    (same : UInt32.ofNat left = UInt32.ofNat right) : left = right := by
  have numbers := congrArg UInt32.toNat same
  rwa [UInt32.toNat_ofNat_of_lt' leftBound,
    UInt32.toNat_ofNat_of_lt' rightBound] at numbers

theorem initialIds_nodup : (initialIds maximumServicesNum).Nodup := by
  refine List.Nodup.filter _ ?_
  refine List.Nodup.map_on ?_ List.nodup_range
  intro left leftMember right rightMember same
  rw [List.mem_range] at leftMember rightMember
  exact ofNat_inj_of_lt (by omega) (by omega) same

/-- The null id is never handed out, however large the limit. -/
theorem Managed.ne_nullId {id : ServiceObjectId}
    (managed : Managed maximumServicesNum id) : id ≠ nullId := by
  rintro rfl
  rcases managed with listed | first | second
  · have mapped := List.mem_of_mem_filter listed
    obtain ⟨number, inRange, same⟩ := List.mem_map.mp mapped
    rw [List.mem_range] at inRange
    have numbers : number = 4294967295 :=
      ofNat_inj_of_lt (by omega) (by omega) same
    omega
  · exact absurd first (by decide)
  · exact absurd second (by decide)

theorem places_new (metaService serviceObject : Object)
    (id : ServiceObjectId) :
    (ServiceForwarder.new maximumServicesNum metaService
        serviceObject).places id =
      if Managed maximumServicesNum id then 1 else 0 := by
  have notListed :
      metaServiceObjectId ∉ initialIds maximumServicesNum ∧
        initialServiceObjectId ∉ initialIds maximumServicesNum := by
    constructor <;>
    · intro listed
      have kept := List.of_mem_filter listed
      simp at kept
  unfold ServiceForwarder.places ServiceForwarder.new
  by_cases isMeta : id = metaServiceObjectId
  · subst isMeta
    rw [List.count_eq_zero_of_not_mem notListed.1]
    simp [Managed, metaServiceObjectId, initialServiceObjectId]
  · by_cases isInitial : id = initialServiceObjectId
    · subst isInitial
      rw [List.count_eq_zero_of_not_mem notListed.2]
      simp [Managed]
    · rw [initialIds_nodup.count]
      simp [Managed, isMeta, isInitial]

/-- No id is in two places, and only managed ids are in any. -/
def IdsOnce (maximumServicesNum : Nat)
    (forwarder : ServiceForwarder Object) : Prop :=
  ∀ id, forwarder.places id ≤ if Managed maximumServicesNum id then 1 else 0

/-- Every managed id is in exactly one place. -/
def IdsKept (maximumServicesNum : Nat)
    (forwarder : ServiceForwarder Object) : Prop :=
  ∀ id, forwarder.places id = if Managed maximumServicesNum id then 1 else 0

theorem IdsOnce.places_le_one (ok : IdsOnce maximumServicesNum forwarder)
    (id : ServiceObjectId) : forwarder.places id ≤ 1 := by
  refine (ok id).trans ?_
  split <;> decide

theorem IdsOnce.managed (ok : IdsOnce maximumServicesNum forwarder)
    {id : ServiceObjectId} (somewhere : 0 < forwarder.places id) :
    Managed maximumServicesNum id := by
  by_contra unmanaged
  have bound := ok id
  rw [if_neg unmanaged] at bound
  omega

/-- The id of an object is managed and not free. -/
theorem IdsOnce.of_registered (ok : IdsOnce maximumServicesNum forwarder)
    {id : ServiceObjectId}
    (registered : (forwarder.serviceObjects id).isSome) :
    id ∉ forwarder.availableIds ∧ Managed maximumServicesNum id := by
  have once := ok.places_le_one id
  have somewhere : 0 < forwarder.places id := by
    unfold ServiceForwarder.places
    rw [if_pos registered]
    omega
  refine ⟨?_, ok.managed somewhere⟩
  intro free
  have counted := List.count_pos_iff.mpr free
  unfold ServiceForwarder.places at once
  rw [if_pos registered] at once
  omega

theorem IdsKept.idsOnce (ok : IdsKept maximumServicesNum forwarder) :
    IdsOnce maximumServicesNum forwarder :=
  fun id => (ok id).le

/-- Where an id can be. -/
theorem IdsKept.cases (ok : IdsKept maximumServicesNum forwarder)
    {id : ServiceObjectId} (managed : Managed maximumServicesNum id) :
    id ∈ forwarder.availableIds ∨
      id ∈ forwarder.registering.map Prod.fst ∨ id ∈ forwarder.deleting ∨
        (forwarder.serviceObjects id).isSome := by
  have kept := ok id
  rw [if_pos managed] at kept
  unfold ServiceForwarder.places at kept
  by_contra nowhere
  push Not at nowhere
  obtain ⟨notFree, notRegistering, notDeleting, notRegistered⟩ := nowhere
  have none_registering :
      (forwarder.registering.countP fun entry => entry.1 == id) = 0 := by
    rw [List.countP_eq_zero]
    intro entry member same
    exact
      notRegistering (List.mem_map.mpr ⟨entry, member, eq_of_beq same⟩)
  rw [List.count_eq_zero_of_not_mem notFree, none_registering,
    List.count_eq_zero_of_not_mem notDeleting, if_neg notRegistered] at kept
  omega

theorem idsOnce_of_reachable
    (reachable :
      (forwarderSystem Object maximumServicesNum).Reachable forwarder) :
    IdsOnce maximumServicesNum forwarder := by
  refine reachable.invariant ?_ ?_
  · rintro source ⟨metaService, serviceObject, rfl⟩ id
    exact (places_new metaService serviceObject id).le
  · intro source event target ok stepped id
    have moves := ServiceForwarder.moves_of_step stepped
    exact (moves.places_le ok.places_le_one id).trans (ok id)

/-- The side condition that `clear` does not run. -/
def NoClear (_forwarder : ServiceForwarder Object) :
    ForwarderEvent Object → Prop
  | .clear => False
  | _ => True

theorem idsKept_of_reachable
    (reachable :
      (forwarderSystem Object maximumServicesNum).ReachableWhere
        NoClear forwarder) :
    IdsKept maximumServicesNum forwarder := by
  refine reachable.invariant ?_ ?_
  · rintro source ⟨metaService, serviceObject, rfl⟩ id
    exact places_new metaService serviceObject id
  · intro source event target ok allowed stepped id
    have moves := ServiceForwarder.moves_of_step stepped
    have kept : event ≠ .clear := by
      rintro rfl
      exact allowed
    rw [moves.places_eq kept ok.idsOnce.places_le_one id]
    exact ok id

/-- Whatever the threads do, the assertion of `register_service_object`
holds, no id is held twice, and no id in use is free. -/
theorem register_never_overwrites
    (reachable :
      (forwarderSystem Object maximumServicesNum).Reachable forwarder) :
    (∀ entry ∈ forwarder.registering,
      forwarder.serviceObjects entry.1 = none) ∧
      (forwarder.availableIds ++
        (forwarder.registering.map Prod.fst ++
          forwarder.deleting)).Nodup ∧
      (∀ id ∈ forwarder.availableIds, forwarder.serviceObjects id = none) ∧
      ∀ id, id ∈ forwarder.availableIds ∨
          id ∈ forwarder.registering.map Prod.fst ∨
          id ∈ forwarder.deleting ∨ (forwarder.serviceObjects id).isSome →
        Managed maximumServicesNum id ∧ id ≠ nullId := by
  have ok := idsOnce_of_reachable reachable
  have counted (id : ServiceObjectId) :
      (forwarder.registering.map Prod.fst).count id =
        forwarder.registering.countP fun entry => entry.1 == id := by
    rw [List.count, List.countP_map]
    rfl
  refine ⟨?_, ?_, ?_, ?_⟩
  · intro entry member
    exact
      ServiceForwarder.not_registered_of_registering ok.places_le_one member
  · rw [List.nodup_iff_count_le_one]
    intro id
    have bound := ok.places_le_one id
    unfold ServiceForwarder.places at bound
    rw [List.count_append, List.count_append, counted]
    omega
  · intro id member
    by_contra registered
    have bound := ok.places_le_one id
    have positive := List.count_pos_iff.mpr member
    unfold ServiceForwarder.places at bound
    rw [if_pos (Option.isSome_iff_ne_none.mpr registered)] at bound
    omega
  · intro id somewhere
    have positive : 0 < forwarder.places id := by
      unfold ServiceForwarder.places
      rcases somewhere with free | inserted | removed | registered
      · have positive := List.count_pos_iff.mpr free
        omega
      · have positive := List.count_pos_iff.mpr inserted
        rw [counted] at positive
        omega
      · have positive := List.count_pos_iff.mpr removed
        omega
      · rw [if_pos registered]
        omega
    have managed := ok.managed positive
    exact ⟨managed, managed.ne_nullId⟩

/-- As long as nobody clears the registry no id is lost: registering fails
if and only if every id of the registry is in use. -/
theorem popFront_eq_none_iff
    (reachable :
      (forwarderSystem Object maximumServicesNum).ReachableWhere
        NoClear forwarder)
    (object : Object) :
    forwarder.step (.popFront object) = none ↔
      ∀ id, Managed maximumServicesNum id →
        id ∈ forwarder.registering.map Prod.fst ∨
          id ∈ forwarder.deleting ∨
          (forwarder.serviceObjects id).isSome := by
  have ok := idsKept_of_reachable reachable
  have exhausted :
      forwarder.step (.popFront object) = none ↔
        forwarder.availableIds = [] := by
    cases front : forwarder.availableIds <;>
      simp [ServiceForwarder.step, front]
  rw [exhausted]
  constructor
  · intro empty id managed
    rcases ok.cases managed with free | used
    · rw [empty] at free
      cases free
    · exact used
  · intro used
    rw [List.eq_nil_iff_forall_not_mem]
    intro id free
    have positive := List.count_pos_iff.mpr free
    have kept := ok id
    have somewhere : 0 < forwarder.places id := by
      unfold ServiceForwarder.places
      omega
    have managed := ok.idsOnce.managed somewhere
    rw [if_pos managed] at kept
    unfold ServiceForwarder.places at kept
    rcases used id managed with inserted | removed | registered
    · obtain ⟨entry, member, same⟩ := List.mem_map.mp inserted
      have counted :
          0 < forwarder.registering.countP fun entry => entry.1 == id :=
        List.countP_pos_iff.mpr ⟨entry, member, beq_iff_eq.mpr same⟩
      omega
    · have counted := List.count_pos_iff.mpr removed
      omega
    · rw [if_pos registered] at kept
      omega

end Runs

/-- A registry with one id to give, while a thread registers an object. -/
def lastIdTaken : ServiceForwarder Nat :=
  ((ServiceForwarder.new 3 10 11).step (.popFront 12)).get (by decide)

theorem lastIdTaken_reachable :
    (forwarderSystem Nat 3).ReachableWhere NoClear lastIdTaken := by
  have starts :
      (forwarderSystem Nat 3).ReachableWhere NoClear
        (ServiceForwarder.new 3 10 11) :=
    TransitionSystem.ReachableWhere.start ⟨10, 11, rfl⟩
  have admitted :
      NoClear (ServiceForwarder.new 3 10 11) (.popFront 12) :=
    trivial
  exact starts.concat admitted (Option.some_get _).symm

theorem register_never_overwrites_lastIdTaken :
    (∀ entry ∈ lastIdTaken.registering,
      lastIdTaken.serviceObjects entry.1 = none) ∧
      (lastIdTaken.availableIds ++
        (lastIdTaken.registering.map Prod.fst ++
          lastIdTaken.deleting)).Nodup ∧
      (∀ id ∈ lastIdTaken.availableIds,
        lastIdTaken.serviceObjects id = none) ∧
      ∀ id, id ∈ lastIdTaken.availableIds ∨
          id ∈ lastIdTaken.registering.map Prod.fst ∨
          id ∈ lastIdTaken.deleting ∨
          (lastIdTaken.serviceObjects id).isSome →
        Managed 3 id ∧ id ≠ nullId :=
  register_never_overwrites lastIdTaken_reachable.reachable

theorem popFront_eq_none_iff_lastIdTaken :
    lastIdTaken.step (.popFront 13) = none ↔
      ∀ id, Managed 3 id →
        id ∈ lastIdTaken.registering.map Prod.fst ∨
          id ∈ lastIdTaken.deleting ∨
          (lastIdTaken.serviceObjects id).isSome :=
  popFront_eq_none_iff lastIdTaken_reachable 13

end CloudP2P.Rpc
