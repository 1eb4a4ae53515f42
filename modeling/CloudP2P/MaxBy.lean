import Mathlib.Algebra.Order.Ring.Defs
import Mathlib.Data.List.DropRight
import Mathlib.Order.Lattice

/-!
# Selecting a maximum with a stateful comparison

`Iterator::max_by` folds from the left, keeps the first element only when it
compares as greater, and hence returns the last of several equal maxima.  The
comparison may change from call to call (it may draw random numbers), so it
is given the number of comparisons made before it.

Three kinds of comparison are looked at: one that agrees with a key, one that
may lose a factor of the key each time, and one that never prefers an item
that it cannot compare.
-/

universe u v

variable {alpha : Type u}

/-- The fold of `max_by` from a current maximum and a comparison count. -/
def maxByFrom (compare : Nat → alpha → alpha → Ordering) :
    Nat → alpha → List alpha → alpha
  | _, best, [] => best
  | count, best, next :: rest =>
      match compare count best next with
      | .gt => maxByFrom compare (count + 1) best rest
      | _ => maxByFrom compare (count + 1) next rest

/-- `max_by`: no value on the empty list. -/
def maxBy (compare : Nat → alpha → alpha → Ordering) :
    List alpha → Option alpha
  | [] => none
  | first :: rest => some (maxByFrom compare 0 first rest)

theorem maxByFrom_mem (compare : Nat → alpha → alpha → Ordering)
    (count : Nat) (best : alpha) (rest : List alpha) :
    maxByFrom compare count best rest ∈ best :: rest := by
  induction rest generalizing count best with
  | nil =>
      exact List.mem_cons_self
  | cons next rest inductionHypothesis =>
      unfold maxByFrom
      split
      · have kept := inductionHypothesis (count + 1) best
        rcases List.mem_cons.mp kept with same | later
        · rw [same]
          exact List.mem_cons_self
        · exact List.mem_cons_of_mem best (List.mem_cons_of_mem next later)
      · exact
          List.mem_cons_of_mem best (inductionHypothesis (count + 1) next)

theorem maxBy_mem
    {compare : Nat → alpha → alpha → Ordering}
    {items : List alpha} {selected : alpha}
    (found : maxBy compare items = some selected) :
    selected ∈ items := by
  cases items with
  | nil =>
      cases found
  | cons first rest =>
      cases found
      exact maxByFrom_mem compare 0 first rest

theorem maxBy_isSome
    (compare : Nat → alpha → alpha → Ordering)
    {items : List alpha} (nonempty : items ≠ []) :
    ∃ selected, maxBy compare items = some selected := by
  cases items with
  | nil =>
      exact False.elim (nonempty rfl)
  | cons first rest =>
      exact ⟨maxByFrom compare 0 first rest, rfl⟩

section Greatest

variable {beta : Type v} [LinearOrder beta] (key : alpha → beta)
variable {compare : Nat → alpha → alpha → Ordering} {admits : alpha → Prop}

/-- When the comparison agrees with a key on the items, no item has a larger
key than the selected one. -/
theorem maxByFrom_greatest
    (agrees : ∀ count left right, admits left → admits right →
      (compare count left right = .gt ↔ key right < key left))
    (count : Nat) {best : alpha} {rest : List alpha}
    (admitted : ∀ item ∈ best :: rest, admits item) :
    ∀ item ∈ best :: rest,
      key item ≤ key (maxByFrom compare count best rest) := by
  induction rest generalizing count best with
  | nil =>
      intro item member
      cases List.mem_singleton.mp member
      exact le_refl _
  | cons next rest inductionHypothesis =>
      have bestAdmitted : admits best := admitted best List.mem_cons_self
      have nextAdmitted : admits next :=
        admitted next (List.mem_cons_of_mem best List.mem_cons_self)
      have restAdmitted : ∀ item ∈ rest, admits item := by
        intro item member
        exact
          admitted item
            (List.mem_cons_of_mem best (List.mem_cons_of_mem next member))
      have step := agrees count best next bestAdmitted nextAdmitted
      unfold maxByFrom
      split
      · rename_i greater
        have greatest :=
          inductionHypothesis (count + 1)
            (List.forall_mem_cons.mpr ⟨bestAdmitted, restAdmitted⟩)
        intro item member
        rcases List.mem_cons.mp member with isBest | later
        · rw [isBest]
          exact greatest best List.mem_cons_self
        · rcases List.mem_cons.mp later with isNext | last
          · rw [isNext]
            exact
              le_trans (le_of_lt (step.mp greater))
                (greatest best List.mem_cons_self)
          · exact greatest item (List.mem_cons_of_mem best last)
      · rename_i notGreater
        have greatest :=
          inductionHypothesis (count + 1)
            (List.forall_mem_cons.mpr ⟨nextAdmitted, restAdmitted⟩)
        have notLess : key best ≤ key next :=
          not_lt.mp fun less => notGreater (step.mpr less)
        intro item member
        rcases List.mem_cons.mp member with isBest | later
        · rw [isBest]
          exact le_trans notLess (greatest next List.mem_cons_self)
        · exact greatest item later

theorem maxBy_greatest
    (agrees : ∀ count left right, admits left → admits right →
      (compare count left right = .gt ↔ key right < key left))
    {items : List alpha} (admitted : ∀ item ∈ items, admits item)
    {selected : alpha} (found : maxBy compare items = some selected) :
    ∀ item ∈ items, key item ≤ key selected := by
  cases items with
  | nil =>
      cases found
  | cons first rest =>
      cases found
      exact maxByFrom_greatest key agrees 0 admitted

end Greatest

/-! ## Comparisons that lose a factor -/

section Winner

/-- What one comparison of the fold keeps. -/
def winner (compare : Nat → alpha → alpha → Ordering) (count : Nat)
    (best next : alpha) : alpha :=
  match compare count best next with
  | .gt => best
  | _ => next

variable {compare : Nat → alpha → alpha → Ordering} {count : Nat}
variable {best next : alpha}

theorem maxByFrom_cons (rest : List alpha) :
    maxByFrom compare count best (next :: rest) =
      maxByFrom compare (count + 1) (winner compare count best next)
        rest := by
  rw [maxByFrom, winner]
  split <;> rfl

theorem winner_of_gt (greater : compare count best next = .gt) :
    winner compare count best next = best := by
  rw [winner, greater]

theorem winner_of_ne_gt (notGreater : compare count best next ≠ .gt) :
    winner compare count best next = next := by
  unfold winner
  split
  · rename_i greater
    exact absurd greater notGreater
  · rfl

theorem admits_winner
    {admits : alpha → Prop} (bestAdmitted : admits best)
    (nextAdmitted : admits next) :
    admits (winner compare count best next) := by
  by_cases greater : compare count best next = .gt
  · rw [winner_of_gt greater]
    exact bestAdmitted
  · rw [winner_of_ne_gt greater]
    exact nextAdmitted

end Winner

section Lossy

variable {beta : Type v} [CommSemiring beta] [PartialOrder beta]
variable [IsOrderedRing beta]

/-- On the admitted items, a comparison never keeps an item whose key is
below `band` times the key of the item it drops. -/
structure Lossy (compare : Nat → alpha → alpha → Ordering)
    (admits : alpha → Prop) (key : alpha → beta) (band : beta) : Prop where
  nonneg : 0 ≤ band
  le_one : band ≤ 1
  key_nonneg : ∀ item, admits item → 0 ≤ key item
  keeps :
    ∀ count left right, admits left → admits right →
      compare count left right = .gt → band * key right ≤ key left
  replaces :
    ∀ count left right, admits left → admits right →
      compare count left right ≠ .gt → band * key left ≤ key right

variable {compare : Nat → alpha → alpha → Ordering}
variable {admits : alpha → Prop} {key : alpha → beta} {band : beta}

theorem Lossy.mul_key_le
    (lossy : Lossy compare admits key band) {item : alpha}
    (admitted : admits item) :
    band * key item ≤ key item :=
  mul_le_of_le_one_left (lossy.key_nonneg item admitted) lossy.le_one

/-- One comparison costs at most one band, whichever side is dropped. -/
theorem Lossy.le_winner
    (lossy : Lossy compare admits key band) (count : Nat)
    {best next : alpha} (bestAdmitted : admits best)
    (nextAdmitted : admits next) :
    band * key best ≤ key (winner compare count best next) ∧
      band * key next ≤ key (winner compare count best next) := by
  by_cases greater : compare count best next = .gt
  · rw [winner_of_gt greater]
    exact
      ⟨lossy.mul_key_le bestAdmitted,
        lossy.keeps count best next bestAdmitted nextAdmitted greater⟩
  · rw [winner_of_ne_gt greater]
    exact
      ⟨lossy.replaces count best next bestAdmitted nextAdmitted greater,
        lossy.mul_key_le nextAdmitted⟩

private theorem Lossy.pow_succ_mul_le
    (lossy : Lossy compare admits key band) {lost : beta} {length : Nat}
    {kept final : alpha} (step : band * lost ≤ key kept)
    (rest : band ^ length * key kept ≤ key final) :
    band ^ (length + 1) * lost ≤ key final :=
  calc
    band ^ (length + 1) * lost = band ^ length * (band * lost) := by
      rw [pow_succ, mul_assoc]
    _ ≤ band ^ length * key kept :=
      mul_le_mul_of_nonneg_left step (pow_nonneg lossy.nonneg length)
    _ ≤ key final := rest

/-- The current maximum loses a band in each comparison that is left. -/
theorem Lossy.pow_mul_le_maxByFrom
    (lossy : Lossy compare admits key band) (count : Nat)
    {best : alpha} {rest : List alpha}
    (admitted : ∀ item ∈ best :: rest, admits item) :
    band ^ rest.length * key best ≤
      key (maxByFrom compare count best rest) := by
  induction rest generalizing count best with
  | nil =>
      rw [List.length_nil, pow_zero, one_mul]
      exact le_refl _
  | cons next rest inductionHypothesis =>
      obtain ⟨bestAdmitted, nextAdmitted, restAdmitted⟩ :
          admits best ∧ admits next ∧ ∀ item ∈ rest, admits item := by
        simpa using admitted
      have keptAdmitted : admits (winner compare count best next) :=
        admits_winner bestAdmitted nextAdmitted
      rw [maxByFrom_cons, List.length_cons]
      exact
        lossy.pow_succ_mul_le
          (lossy.le_winner count bestAdmitted nextAdmitted).1
          (inductionHypothesis (count + 1)
            (List.forall_mem_cons.mpr ⟨keptAdmitted, restAdmitted⟩))

/-- An item that is still to come loses a band in its own comparison and in
each comparison after it. -/
theorem Lossy.pow_mul_le_maxByFrom_append
    (lossy : Lossy compare admits key band) (count : Nat)
    {best item : alpha} {earlier later : List alpha}
    (admitted :
      ∀ other ∈ best :: (earlier ++ item :: later), admits other) :
    band ^ (later.length + 1) * key item ≤
      key (maxByFrom compare count best (earlier ++ item :: later)) := by
  induction earlier generalizing count best with
  | nil =>
      obtain ⟨bestAdmitted, itemAdmitted, laterAdmitted⟩ :
          admits best ∧ admits item ∧ ∀ other ∈ later, admits other := by
        simpa using admitted
      have keptAdmitted : admits (winner compare count best item) :=
        admits_winner bestAdmitted itemAdmitted
      rw [List.nil_append, maxByFrom_cons]
      exact
        lossy.pow_succ_mul_le
          (lossy.le_winner count bestAdmitted itemAdmitted).2
          (lossy.pow_mul_le_maxByFrom (count + 1)
            (List.forall_mem_cons.mpr ⟨keptAdmitted, laterAdmitted⟩))
  | cons next earlier inductionHypothesis =>
      obtain ⟨bestAdmitted, nextAdmitted, restAdmitted⟩ :
          admits best ∧ admits next ∧
            ∀ other ∈ earlier ++ item :: later, admits other := by
        simpa using admitted
      have keptAdmitted : admits (winner compare count best next) :=
        admits_winner bestAdmitted nextAdmitted
      rw [List.cons_append, maxByFrom_cons]
      exact
        inductionHypothesis (count + 1)
          (List.forall_mem_cons.mpr ⟨keptAdmitted, restAdmitted⟩)

/-- `max_by` loses at most one band for each comparison in which an item or
what has beaten it takes part: one for its own, unless it is the first, and
one for each later item. -/
theorem Lossy.pow_mul_le_maxBy
    (lossy : Lossy compare admits key band)
    {item selected : alpha} {earlier later : List alpha}
    (admitted : ∀ other ∈ earlier ++ item :: later, admits other)
    (found : maxBy compare (earlier ++ item :: later) = some selected) :
    band ^ (later.length + min earlier.length 1) * key item ≤
      key selected := by
  cases earlier with
  | nil =>
      cases found
      exact lossy.pow_mul_le_maxByFrom 0 admitted
  | cons first earlier =>
      cases found
      have oneOwn : min (first :: earlier).length 1 = 1 := by
        simp
      rw [oneOwn]
      exact lossy.pow_mul_le_maxByFrom_append 0 admitted

end Lossy

/-! ## Comparisons that never prefer an incomparable item -/

section Incomparable

variable {compare : Nat → alpha → alpha → Ordering}
variable {comparable : alpha → Bool}

/-- An item that no other one is preferred to replaces all before it. -/
theorem maxByFrom_append_of_replaces
    {bad : alpha} (replaces : ∀ count best, compare count best bad ≠ .gt)
    (count : Nat) (best : alpha) (earlier later : List alpha) :
    maxByFrom compare count best (earlier ++ bad :: later) =
      maxByFrom compare (count + earlier.length + 1) bad later := by
  induction earlier generalizing count best with
  | nil =>
      rw [List.nil_append, maxByFrom_cons,
        winner_of_ne_gt (replaces count best)]
      rfl
  | cons next earlier inductionHypothesis =>
      rw [List.cons_append, maxByFrom_cons, inductionHypothesis,
        List.length_cons, Nat.add_right_comm count 1, Nat.add_assoc count]

theorem maxBy_append_of_replaces
    {bad : alpha} (replaces : ∀ count best, compare count best bad ≠ .gt)
    (earlier later : List alpha) :
    ∃ count,
      maxBy compare (earlier ++ bad :: later) =
        some (maxByFrom compare count bad later) := by
  cases earlier with
  | nil =>
      exact ⟨0, rfl⟩
  | cons first earlier =>
      refine ⟨0 + earlier.length + 1, congrArg some ?_⟩
      exact maxByFrom_append_of_replaces replaces 0 first earlier later

variable {beta : Type v} [LinearOrder beta] {key : alpha → beta}

/-- Where the comparison agrees with a key on comparable items and prefers no
item in an incomparable pair, the items after the last incomparable one are
the only ones that count; when there are none, that one is selected. -/
theorem maxBy_of_incomparable
    (agrees : ∀ count left right,
      comparable left = true → comparable right = true →
        (compare count left right = .gt ↔ key right < key left))
    (yields : ∀ count left right,
      (comparable left && comparable right) = false →
        compare count left right ≠ .gt)
    {items : List alpha} {selected : alpha}
    (found : maxBy compare items = some selected) :
    (items.rtakeWhile comparable = [] →
      items.getLast? = some selected) ∧
      (items.rtakeWhile comparable ≠ [] →
        selected ∈ items.rtakeWhile comparable ∧
          ∀ item ∈ items.rtakeWhile comparable,
            key item ≤ key selected) := by
  have whole := List.rdropWhile_append_rtakeWhile (p := comparable)
    (l := items)
  have laterComparable :
      ∀ item ∈ items.rtakeWhile comparable, comparable item = true :=
    fun item => List.mem_rtakeWhile_imp
  cases before : items.rdropWhile comparable using List.reverseRecOn with
  | nil =>
      rw [before, List.nil_append] at whole
      rw [whole] at laterComparable ⊢
      constructor
      · intro empty
        rw [empty] at found
        cases found
      · intro _
        exact
          ⟨maxBy_mem found,
            maxBy_greatest key agrees laterComparable found⟩
  | append_singleton earlier bad =>
      have notComparable : comparable bad = false := by
        have last :=
          List.rdropWhile_last_not comparable items (by simp [before])
        simpa [before] using last
      have replaces : ∀ count best, compare count best bad ≠ .gt := by
        intro count best
        apply yields
        rw [notComparable, Bool.and_false]
      rw [before, List.append_assoc, List.singleton_append] at whole
      obtain ⟨count, folded⟩ :=
        maxBy_append_of_replaces replaces earlier
          (items.rtakeWhile comparable)
      rw [whole, found, Option.some.injEq] at folded
      cases after : items.rtakeWhile comparable with
      | nil =>
          rw [after] at whole folded
          refine ⟨fun _ => ?_, fun nonempty => absurd rfl nonempty⟩
          rw [← whole, folded]
          exact List.getLast?_concat
      | cons next later =>
          rw [after] at folded laterComparable
          have dropped : compare count bad next ≠ .gt := by
            apply yields
            rw [notComparable, Bool.false_and]
          rw [maxByFrom_cons, winner_of_ne_gt dropped] at folded
          rw [folded]
          exact
            ⟨nofun, fun _ =>
              ⟨maxByFrom_mem compare (count + 1) next later,
                maxByFrom_greatest key agrees (count + 1)
                  laterComparable⟩⟩

end Incomparable
