import Mathlib.Algebra.BigOperators.Fin
import Mathlib.Data.List.Perm.Basic
import Mathlib.Data.Multiset.Filter

/-!
# Bookkeeping for updated families and drained lists

Sums over a family of components of which a step updates one, and counts over
a list of which a step removes or changes the item at some index.
-/

universe u v

/-- Updating one component changes a sum by the change of that component. -/
theorem sum_update_add
    {Index : Type u} {Component : Type v} [Fintype Index]
    [DecidableEq Index] (weight : Component → Nat)
    (family : Index → Component) (index : Index) (value : Component) :
    (∑ other, weight (Function.update family index value other)) +
        weight (family index) =
      (∑ other, weight (family other)) + weight value := by
  have others :
      ∑ other ∈ Finset.univ.erase index,
          weight (Function.update family index value other) =
        ∑ other ∈ Finset.univ.erase index, weight (family other) := by
    refine Finset.sum_congr rfl ?_
    intro other member
    rw [Function.update_of_ne (Finset.ne_of_mem_erase member)]
  have after :=
    Finset.add_sum_erase Finset.univ
      (fun other => weight (Function.update family index value other))
      (Finset.mem_univ index)
  have before :=
    Finset.add_sum_erase Finset.univ (fun other => weight (family other))
      (Finset.mem_univ index)
  simp only [Function.update_self] at after
  omega

section Removal

variable {alpha : Type u}

/-- An item that was removed and the ones that remain are the whole list. -/
theorem cons_eraseIdx_perm {items : List alpha} {index : Nat} {item : alpha}
    (found : items[index]? = some item) :
    (item :: items.eraseIdx index).Perm items := by
  obtain ⟨valid, same⟩ := List.getElem?_eq_some_iff.mp found
  rw [← same]
  exact List.getElem_cons_eraseIdx_perm valid

/-- An item moves out of one list into the part that follows it. -/
theorem eraseIdx_append_perm {items before after : List alpha}
    {index : Nat} {item : alpha} (found : items[index]? = some item)
    (added : after.Perm (item :: before)) :
    (items.eraseIdx index ++ after).Perm (items ++ before) :=
  calc
    (items.eraseIdx index ++ after).Perm
        (items.eraseIdx index ++ item :: before) := added.append_left _
    List.Perm _ (item :: items.eraseIdx index ++ before) := List.perm_middle
    List.Perm _ (items ++ before) := (cons_eraseIdx_perm found).append_right _

/-- Removing an item takes it out of the count. -/
theorem countP_eraseIdx_add
    (counted : alpha → Bool) {items : List alpha} {index : Nat}
    {item : alpha} (found : items[index]? = some item) :
    (items.eraseIdx index).countP counted +
        (if counted item then 1 else 0) =
      items.countP counted := by
  rw [← (cons_eraseIdx_perm found).countP_eq, List.countP_cons]

theorem countP_eraseIdx_le
    (counted : alpha → Bool) (items : List alpha) (index : Nat) :
    (items.eraseIdx index).countP counted ≤ items.countP counted :=
  (List.eraseIdx_sublist items index).countP_le

/-- At most one item of a list without repetition equals a given one. -/
theorem countP_le_one_of_nodup
    (counted : alpha → Bool) {items : List alpha}
    (nodup : items.Nodup) (unique : alpha)
    (only : ∀ item ∈ items, counted item = true → item = unique) :
    items.countP counted ≤ 1 := by
  classical
  calc
    items.countP counted ≤ items.count unique := by
      rw [List.count]
      refine List.countP_mono_left ?_
      intro item member isCounted
      simpa using only item member isCounted
    _ ≤ 1 := List.nodup_iff_count_le_one.mp nodup unique

end Removal

/-- Changing an item that is counted adds nothing to the count. -/
theorem countP_modify_le
    {alpha : Type u} (counted : alpha → Bool) (change : alpha → alpha)
    {items : List alpha} {index : Nat} {item : alpha}
    (found : items[index]? = some item) (isCounted : counted item = true) :
    (items.modify index change).countP counted ≤ items.countP counted := by
  obtain ⟨valid, same⟩ := List.getElem?_eq_some_iff.mp found
  have whole :
      items = items.take index ++ item :: items.drop (index + 1) := by
    rw [← same, ← List.drop_eq_getElem_cons valid, List.take_append_drop]
  have changed :
      items.modify index change =
        items.take index ++ change item :: items.drop (index + 1) := by
    rw [List.modify_eq_take_cons_drop valid, same]
  have before :
      items.countP counted =
        (items.take index).countP counted +
          ((items.drop (index + 1)).countP counted + 1) := by
    conv_lhs => rw [whole]
    rw [List.countP_append, List.countP_cons_of_pos isCounted]
  have after :
      (items.modify index change).countP counted ≤
        (items.take index).countP counted +
          ((items.drop (index + 1)).countP counted + 1) := by
    rw [changed, List.countP_append, List.countP_cons]
    split <;> omega
  omega

/-- Overwriting an entry exchanges one item of the list for another. -/
theorem exists_rest_of_set
    {alpha : Type u} {items : List alpha} {index : Nat} {item : alpha}
    (found : items[index]? = some item) (value : alpha) :
    ∃ rest : Multiset alpha,
      (items : Multiset alpha) = item ::ₘ rest ∧
        (items.set index value : Multiset alpha) = value ::ₘ rest := by
  obtain ⟨valid, same⟩ := List.getElem?_eq_some_iff.mp found
  refine ⟨(items.take index ++ items.drop (index + 1) : List alpha), ?_, ?_⟩
  · have whole :
        items = items.take index ++ item :: items.drop (index + 1) := by
      rw [← same, ← List.drop_eq_getElem_cons valid, List.take_append_drop]
    conv_lhs => rw [whole]
    exact Multiset.coe_eq_coe.mpr List.perm_middle
  · rw [List.set_eq_take_append_cons_drop, if_pos valid]
    exact Multiset.coe_eq_coe.mpr List.perm_middle

theorem cons_coe_set
    {alpha : Type u} {items : List alpha} {index : Nat} {item : alpha}
    (found : items[index]? = some item) (value : alpha) :
    item ::ₘ (items.set index value : Multiset alpha) =
      value ::ₘ (items : Multiset alpha) := by
  obtain ⟨rest, before, after⟩ := exists_rest_of_set found value
  rw [before, after]
  exact Multiset.cons_swap item value rest

/-- Only the new item is found where an entry was overwritten. -/
theorem eq_of_getElem?_set_self
    {alpha : Type u} {items : List alpha} {index : Nat}
    {value found : alpha}
    (here : (items.set index value)[index]? = some found) :
    found = value := by
  rw [List.getElem?_set, if_pos rfl] at here
  split at here
  · cases here
    rfl
  · cases here

/-- Overwriting an entry keeps every item that differs from it. -/
theorem mem_set_of_ne
    {alpha : Type u} {items : List alpha} {index : Nat} {item : alpha}
    (found : items[index]? = some item) (value : alpha) {other : alpha}
    (member : other ∈ items) (different : other ≠ item) :
    other ∈ items.set index value := by
  obtain ⟨rest, before, after⟩ := exists_rest_of_set found value
  rw [← Multiset.mem_coe, before, Multiset.mem_cons] at member
  rw [← Multiset.mem_coe, after, Multiset.mem_cons]
  exact Or.inr (member.resolve_left different)

theorem countP_set_add
    {alpha : Type u} (counted : alpha → Bool) {items : List alpha}
    {index : Nat} {item : alpha} (found : items[index]? = some item)
    (value : alpha) :
    (items.set index value).countP counted +
        (if counted item then 1 else 0) =
      items.countP counted + (if counted value then 1 else 0) := by
  have exchanged :=
    congrArg (Multiset.countP fun other => counted other = true)
      (cons_coe_set found value)
  simp only [Multiset.countP_cons, Multiset.coe_countP] at exchanged
  simpa using exchanged

theorem sum_map_set_add
    {alpha : Type u} (weight : alpha → Nat) {items : List alpha}
    {index : Nat} {item : alpha} (found : items[index]? = some item)
    (value : alpha) :
    ((items.set index value).map weight).sum + weight item =
      (items.map weight).sum + weight value := by
  have exchanged :=
    congrArg (fun bag => (Multiset.map weight bag).sum)
      (cons_coe_set found value)
  simp only [Multiset.map_cons, Multiset.sum_cons, Multiset.map_coe,
    Multiset.sum_coe] at exchanged
  omega

/-- Erasing the first item of a kind takes one item of that kind away. -/
theorem exists_perm_eraseP
    {alpha : Type u} {chosen : alpha → Bool} {items : List alpha}
    {item : alpha} (member : item ∈ items) (isChosen : chosen item = true) :
    ∃ first, chosen first = true ∧
      items.Perm (first :: items.eraseP chosen) := by
  obtain ⟨first, before, behind, _, isFirst, whole, erased⟩ :=
    List.exists_of_eraseP member isChosen
  refine ⟨first, isFirst, ?_⟩
  rw [erased, whole]
  exact List.perm_middle

/-- Two entries that are counted are one entry if at most one is. -/
theorem index_eq_of_countP_le_one
    {alpha : Type u} {counted : alpha → Bool} {items : List alpha}
    (unique : items.countP counted ≤ 1) {left right : Nat}
    {leftItem rightItem : alpha}
    (foundLeft : items[left]? = some leftItem)
    (countedLeft : counted leftItem = true)
    (foundRight : items[right]? = some rightItem)
    (countedRight : counted rightItem = true) : left = right := by
  by_contra different
  have removed := countP_eraseIdx_add counted foundLeft
  rw [if_pos countedLeft] at removed
  have remains : rightItem ∈ items.eraseIdx left := by
    rw [List.mem_eraseIdx_iff_getElem?]
    exact ⟨right, Ne.symm different, foundRight⟩
  have positive : 0 < (items.eraseIdx left).countP counted :=
    List.countP_pos_iff.mpr ⟨rightItem, remains, countedRight⟩
  omega

/-- Overwriting an entry leaves what is selected from a list as it was when
the same is selected from both items. -/
theorem filterMap_set_of_eq
    {alpha : Type u} {beta : Type v} {select : alpha → Option beta}
    {items : List alpha} {index : Nat} {item : alpha}
    (found : items[index]? = some item) {value : alpha}
    (same : select value = select item) :
    (items.set index value).filterMap select = items.filterMap select := by
  induction items generalizing index with
  | nil =>
      rfl
  | cons head rest inductionHypothesis =>
      cases index with
      | zero =>
          cases found
          rw [List.set_cons_zero, List.filterMap_cons, List.filterMap_cons,
            same]
      | succ index =>
          have inner := inductionHypothesis found
          rw [List.set_cons_succ, List.filterMap_cons, List.filterMap_cons,
            inner]

/-- Overwriting an entry from which nothing was selected. -/
theorem filterMap_set_cons
    {alpha : Type u} {beta : Type v} {select : alpha → Option beta}
    {items : List alpha} {index : Nat} {item : alpha}
    (found : items[index]? = some item) (nothing : select item = none)
    {value : alpha} {selected : beta}
    (selects : select value = some selected) :
    ((items.set index value).filterMap select : Multiset beta) =
      selected ::ₘ (items.filterMap select : Multiset beta) := by
  have exchanged :=
    congrArg (Multiset.filterMap select) (cons_coe_set found value)
  rw [Multiset.filterMap_cons_none _ _ nothing,
    Multiset.filterMap_cons_some select value _ selects] at exchanged
  exact exchanged

/-- Overwriting an entry so that nothing is selected from it any more. -/
theorem filterMap_set_erase
    {alpha : Type u} {beta : Type v} {select : alpha → Option beta}
    {items : List alpha} {index : Nat} {item : alpha}
    (found : items[index]? = some item) {selected : beta}
    (selects : select item = some selected) {value : alpha}
    (nothing : select value = none) :
    (items.filterMap select : Multiset beta) =
      selected ::ₘ ((items.set index value).filterMap select :
        Multiset beta) := by
  have exchanged :=
    congrArg (Multiset.filterMap select) (cons_coe_set found value)
  rw [Multiset.filterMap_cons_none _ _ nothing,
    Multiset.filterMap_cons_some select item _ selects] at exchanged
  exact exchanged.symm

/-- Overwriting an entry from which something else is selected then. -/
theorem exists_rest_of_filterMap_set
    {alpha : Type u} {beta : Type v} {select : alpha → Option beta}
    {items : List alpha} {index : Nat} {item : alpha}
    (found : items[index]? = some item) {old new : beta}
    (selected : select item = some old) {value : alpha}
    (selects : select value = some new) :
    ∃ rest : Multiset beta,
      (items.filterMap select : Multiset beta) = old ::ₘ rest ∧
        ((items.set index value).filterMap select : Multiset beta) =
          new ::ₘ rest := by
  obtain ⟨rest, before, after⟩ := exists_rest_of_set found value
  refine ⟨rest.filterMap select, ?_, ?_⟩
  · rw [← Multiset.filterMap_cons_some select item rest selected, ← before]
    rfl
  · rw [← Multiset.filterMap_cons_some select value rest selects, ← after]
    rfl
