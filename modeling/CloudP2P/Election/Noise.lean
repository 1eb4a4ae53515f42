import CloudP2P.Election.Criteria
import CloudP2P.Election.Term
import Mathlib.Tactic.Ring

/-!
# The noise of an election

`elect_leader` draws both scores of a comparison afresh, and takes a pair
that cannot be compared as equal.  One comparison may therefore prefer a
candidate whose base score is lower by the width of the noise, and these
losses add up along the list; and a candidate with an incomparable score
replaces whatever comes before it.
-/

universe u

namespace CloudP2P.Election

/-! ## Base scores -/

/-- The base score, when it is a number. -/
def SystemMetrics.baseValue (metrics : SystemMetrics) : ℚ :=
  match baseScore metrics with
  | .rational value => value
  | .nan => 0

/-- The score is a number. -/
def Candidate.comparable (candidate : Candidate) : Bool :=
  decide (baseScore candidate.metrics ≠ .nan)

/-- `0.98 / 1.02`: the lowest random factor against the highest one. -/
def noiseBand : ℚ := 98 / 102

theorem baseScore_of_ne_nan
    {metrics : SystemMetrics} (isNumber : baseScore metrics ≠ .nan) :
    baseScore metrics = .rational metrics.baseValue := by
  unfold SystemMetrics.baseValue
  cases score : baseScore metrics with
  | rational value =>
      rfl
  | nan =>
      exact absurd score isNumber

theorem baseScore_of_baseValue_pos
    {metrics : SystemMetrics} (positive : 0 < metrics.baseValue) :
    baseScore metrics = .rational metrics.baseValue := by
  apply baseScore_of_ne_nan
  intro isNan
  rw [SystemMetrics.baseValue, isNan] at positive
  exact lt_irrefl 0 positive

/-- With the random factor 1 the score is the base score. -/
theorem calculateScore_evenDraw (metrics : SystemMetrics) :
    calculateScore evenDraw metrics = baseScore metrics := by
  rw [calculateScore, randomFactor_evenDraw]
  cases baseScore metrics with
  | rational value =>
      rw [F64.rational_mul, mul_one]
  | nan =>
      rfl

theorem baseValue_ofRationals (cpuLoad memoryUsage loadAverage : ℚ) :
    (SystemMetrics.ofRationals cpuLoad memoryUsage loadAverage).baseValue =
      (1 - loadAverage / 100) * 2 := by
  rw [SystemMetrics.baseValue, ← calculateScore_evenDraw,
    calculateScore_ofRationals]

theorem le_randomFactor (draw : UnitDraw) :
    98 / 100 ≤ randomFactor draw := by
  have nonneg := draw.2.1
  unfold randomFactor
  linarith

theorem randomFactor_lt (draw : UnitDraw) :
    randomFactor draw < 102 / 100 := by
  have below := draw.2.2
  unfold randomFactor
  linarith

/-! ## The loss of an election -/

section Loss

variable {draws : Nat → UnitDraw}

theorem compareScores_gt_iff_of_pos
    (comparison : Nat) {left right : Candidate}
    (leftPositive : 0 < left.metrics.baseValue)
    (rightPositive : 0 < right.metrics.baseValue) :
    compareScores draws comparison left right = .gt ↔
      right.metrics.baseValue *
          randomFactor (draws (2 * comparison + 1)) <
        left.metrics.baseValue * randomFactor (draws (2 * comparison)) := by
  simp only [compareScores, calculateScore,
    baseScore_of_baseValue_pos leftPositive,
    baseScore_of_baseValue_pos rightPositive, F64.rational_mul,
    F64.partialCmp, Option.getD_some, compare_gt_iff_gt]

/-- A scaled value that is not below another one is at most a band below it
without the factors. -/
theorem noiseBand_mul_le
    {dropped kept droppedFactor keptFactor : ℚ} (droppedNonneg : 0 ≤ dropped)
    (keptNonneg : 0 ≤ kept) (lowest : 98 / 100 ≤ droppedFactor)
    (highest : keptFactor ≤ 102 / 100)
    (scaled : dropped * droppedFactor ≤ kept * keptFactor) :
    noiseBand * dropped ≤ kept := by
  have least : dropped * (98 / 100) ≤ dropped * droppedFactor :=
    mul_le_mul_of_nonneg_left lowest droppedNonneg
  have most : kept * keptFactor ≤ kept * (102 / 100) :=
    mul_le_mul_of_nonneg_left highest keptNonneg
  unfold noiseBand
  linarith

theorem lossy_compareScores (draws : Nat → UnitDraw) :
    Lossy (compareScores draws)
      (fun candidate => 0 < candidate.metrics.baseValue)
      (fun candidate => candidate.metrics.baseValue) noiseBand where
  nonneg := by norm_num [noiseBand]
  le_one := by norm_num [noiseBand]
  key_nonneg _ positive := le_of_lt positive
  keeps := by
    intro count left right leftPositive rightPositive greater
    rw [compareScores_gt_iff_of_pos count leftPositive rightPositive]
      at greater
    exact
      noiseBand_mul_le (le_of_lt rightPositive) (le_of_lt leftPositive)
        (le_randomFactor _) (le_of_lt (randomFactor_lt _))
        (le_of_lt greater)
  replaces := by
    intro count left right leftPositive rightPositive notGreater
    rw [ne_eq,
      compareScores_gt_iff_of_pos count leftPositive rightPositive]
      at notGreater
    exact
      noiseBand_mul_le (le_of_lt leftPositive) (le_of_lt rightPositive)
        (le_randomFactor _) (le_of_lt (randomFactor_lt _))
        (not_lt.mp notGreater)

/-- The elected candidate is below another one by at most a band for each
comparison in which the other one, or what has beaten it, takes part: its
own, unless it is the first, and one for each candidate after it. -/
theorem electLeader_loss
    (draws : Nat → UnitDraw) {candidates : List Candidate}
    (nonempty : candidates ≠ [])
    (positive :
      ∀ candidate ∈ candidates, 0 < candidate.metrics.baseValue) :
    ∃ elected ∈ candidates,
      maxBy (compareScores draws) candidates = some elected ∧
        electLeader draws candidates = some elected.id ∧
        ∀ earlier candidate later,
          candidates = earlier ++ candidate :: later →
            noiseBand ^ (later.length + min earlier.length 1) *
                candidate.metrics.baseValue ≤
              elected.metrics.baseValue := by
  obtain ⟨elected, found⟩ := maxBy_isSome (compareScores draws) nonempty
  refine ⟨elected, maxBy_mem found, found, ?_, ?_⟩
  · rw [electLeader, found, Option.map_some]
  · intro earlier candidate later split
    rw [split] at positive found
    exact (lossy_compareScores draws).pow_mul_le_maxBy positive found

end Loss

/-! ### No smaller loss is certain -/

/-- A candidate with a given base score. -/
def scored (id : UInt64) (value : ℚ) : Candidate where
  id := id
  metrics := .ofRationals 0 0 (100 - 50 * value)
  score := value

theorem baseValue_scored (id : UInt64) (value : ℚ) :
    (scored id value).metrics.baseValue = value := by
  rw [scored, baseValue_ofRationals]
  ring

/-- The lowest factor on the left of each comparison and `draw` on its
right. -/
def unevenDraws (draw : UnitDraw) (index : Nat) : UnitDraw :=
  if index % 2 = 0 then UnitDraw.zero else draw

/-- Base scores that fall by `ratio` from one candidate to the next. -/
def falling (ratio : ℚ) : ℚ → Nat → List Candidate
  | _, 0 => []
  | value, count + 1 =>
      scored 0 (value * ratio) :: falling ratio (value * ratio) count

section Tight

variable {ratio value : ℚ}

/-- Each candidate is replaced by the next one, which is lower. -/
private theorem maxByFrom_falling
    {draw : UnitDraw} (raised : ratio * randomFactor draw = 98 / 100)
    (ratioPositive : 0 < ratio) (positive : 0 < value)
    (comparison count : Nat) (id : UInt64) :
    (maxByFrom (compareScores (unevenDraws draw)) comparison
        (scored id value)
        (falling ratio value count)).metrics.baseValue =
      value * ratio ^ count := by
  induction count generalizing value comparison id with
  | zero =>
      rw [falling, maxByFrom, baseValue_scored, pow_zero, mul_one]
  | succ count inductionHypothesis =>
      have nextPositive : 0 < value * ratio :=
        mul_pos positive ratioPositive
      have even :
          randomFactor (unevenDraws draw (2 * comparison)) = 98 / 100 := by
        simp [unevenDraws, UnitDraw.zero, randomFactor]
      have odd : unevenDraws draw (2 * comparison + 1) = draw := by
        simp [unevenDraws, Nat.add_mod]
      have replaced :
          compareScores (unevenDraws draw) comparison (scored id value)
            (scored 0 (value * ratio)) ≠ .gt := by
        rw [ne_eq, compareScores_gt_iff_of_pos, baseValue_scored,
          baseValue_scored, even, odd, mul_assoc, raised]
        · exact lt_irrefl _
        · rw [baseValue_scored]
          exact positive
        · rw [baseValue_scored]
          exact nextPositive
      rw [falling, maxByFrom_cons, winner_of_ne_gt replaced,
        inductionHypothesis nextPositive, pow_succ', mul_assoc]

private theorem mem_falling
    (ratioPositive : 0 < ratio) (atMost : ratio ≤ 1)
    (positive : 0 < value) (count : Nat) :
    ∀ candidate ∈ falling ratio value count,
      0 < candidate.metrics.baseValue ∧
        candidate.metrics.baseValue ≤ value := by
  induction count generalizing value with
  | zero =>
      nofun
  | succ count inductionHypothesis =>
      have nextPositive : 0 < value * ratio :=
        mul_pos positive ratioPositive
      have lower : value * ratio ≤ value :=
        mul_le_of_le_one_right (le_of_lt positive) atMost
      intro candidate member
      rcases List.mem_cons.mp member with same | later
      · rw [same, baseValue_scored]
        exact ⟨nextPositive, lower⟩
      · obtain ⟨isPositive, below⟩ :=
          inductionHypothesis nextPositive candidate later
        exact ⟨isPositive, le_trans below lower⟩

private theorem length_falling (ratio value : ℚ) (count : Nat) :
    (falling ratio value count).length = count := by
  induction count generalizing value with
  | zero =>
      rfl
  | succ count inductionHypothesis =>
      rw [falling, List.length_cons, inductionHypothesis]

/-- For every length, an election may lose any ratio above a band in each of
its comparisons. -/
theorem exists_loss
    (above : noiseBand < ratio) (atMost : ratio ≤ 1) (count : Nat) :
    ∃ draws candidates elected,
      candidates.length = count + 1 ∧
        (∀ candidate ∈ candidates,
          0 < candidate.metrics.baseValue ∧
            candidate.metrics.baseValue ≤ 1) ∧
        (∃ candidate ∈ candidates, candidate.metrics.baseValue = 1) ∧
        maxBy (compareScores draws) candidates = some elected ∧
        elected.metrics.baseValue = ratio ^ count := by
  have ratioPositive : 0 < ratio :=
    lt_trans (by norm_num [noiseBand]) above
  have lowest : 98 ≤ 98 / ratio := by
    rw [le_div_iff₀ ratioPositive]
    linarith
  have highest : 98 / ratio < 102 := by
    rw [div_lt_iff₀ ratioPositive]
    unfold noiseBand at above
    linarith
  let draw : UnitDraw :=
    ⟨(98 / ratio - 98) / 4, by linarith, by linarith⟩
  have raised : ratio * randomFactor draw = 98 / 100 := by
    have inverse : ratio * (98 / ratio) = 98 :=
      mul_div_cancel₀ 98 (ne_of_gt ratioPositive)
    change ratio * (98 / 100 + (98 / ratio - 98) / 4 * (4 / 100)) = _
    linarith
  refine
    ⟨unevenDraws draw, scored 0 1 :: falling ratio 1 count, _, ?_, ?_, ?_,
      rfl, ?_⟩
  · rw [List.length_cons, length_falling]
  · intro candidate member
    rcases List.mem_cons.mp member with same | later
    · rw [same, baseValue_scored]
      norm_num
    · exact
        mem_falling ratioPositive atMost one_pos count candidate later
  · exact ⟨_, List.mem_cons_self, baseValue_scored 0 1⟩
  · rw [maxByFrom_falling raised ratioPositive one_pos, one_mul]

end Tight

/-! ### Three candidates -/

/-- Each base score is 3 or 4 per cent below the one before it. -/
def fallingThree : List Candidate :=
  [scored 1 2, scored 2 (194 / 100), scored 3 (188 / 100)]

theorem fallingThree_positive :
    ∀ candidate ∈ fallingThree, 0 < candidate.metrics.baseValue := by
  norm_num [fallingThree, baseValue_scored]

/-- Close to the highest factor on the right of each comparison. -/
def nearlyHighest : UnitDraw := ⟨99 / 100, by norm_num, by norm_num⟩

theorem electLeader_loss_fallingThree :
    ∃ elected ∈ fallingThree,
      maxBy (compareScores (unevenDraws nearlyHighest)) fallingThree =
          some elected ∧
        electLeader (unevenDraws nearlyHighest) fallingThree =
          some elected.id ∧
        ∀ earlier candidate later,
          fallingThree = earlier ++ candidate :: later →
            noiseBand ^ (later.length + min earlier.length 1) *
                candidate.metrics.baseValue ≤
              elected.metrics.baseValue :=
  electLeader_loss (unevenDraws nearlyHighest) (List.cons_ne_nil _ _)
    fallingThree_positive

/-- The last of them is elected, two bands below the first. -/
theorem fallingThree_loses_twice :
    ¬ ∀ (draws : Nat → UnitDraw) (candidates : List Candidate)
        (elected : Candidate),
      (∀ candidate ∈ candidates, 0 < candidate.metrics.baseValue) →
        maxBy (compareScores draws) candidates = some elected →
          ∀ candidate ∈ candidates,
            noiseBand * candidate.metrics.baseValue ≤
              elected.metrics.baseValue := by
  intro oneBand
  have elected :
      maxBy (compareScores (unevenDraws nearlyHighest)) fallingThree =
        some (scored 3 (188 / 100)) := by
    decide +kernel
  have bound :=
    oneBand (unevenDraws nearlyHighest) fallingThree _
      fallingThree_positive elected (scored 1 2) List.mem_cons_self
  rw [baseValue_scored, baseValue_scored] at bound
  norm_num [noiseBand] at bound

/-! ## Incomparable scores -/

theorem compareScores_gt_iff_of_comparable
    (comparison : Nat) {left right : Candidate}
    (leftComparable : left.comparable = true)
    (rightComparable : right.comparable = true) :
    compareScores (fun _ => evenDraw) comparison left right = .gt ↔
      right.metrics.baseValue < left.metrics.baseValue := by
  simp only [compareScores, calculateScore_evenDraw,
    baseScore_of_ne_nan (of_decide_eq_true leftComparable),
    baseScore_of_ne_nan (of_decide_eq_true rightComparable),
    F64.partialCmp, Option.getD_some, compare_gt_iff_gt]

/-- `unwrap_or(Ordering::Equal)`. -/
theorem compareScores_of_incomparable
    (comparison : Nat) {left right : Candidate}
    (incomparable : (left.comparable && right.comparable) = false) :
    compareScores (fun _ => evenDraw) comparison left right = .eq := by
  simp only [compareScores, calculateScore_evenDraw]
  rcases Bool.and_eq_false_iff.mp incomparable with leftNan | rightNan
  · rw [not_not.mp (of_decide_eq_false leftNan)]
    rfl
  · rw [not_not.mp (of_decide_eq_false rightNan)]
    cases baseScore left.metrics with
    | rational | nan =>
        rfl

/-- A candidate with an incomparable score replaces all before it.  If the
last candidate is such, it is elected; otherwise the elected one has the
highest score among those after the last incomparable one. -/
theorem electLeader_of_incomparable
    {candidates : List Candidate} (nonempty : candidates ≠ []) :
    ∃ elected ∈ candidates,
      maxBy (compareScores fun _ => evenDraw) candidates = some elected ∧
        electLeader (fun _ => evenDraw) candidates = some elected.id ∧
        (candidates.rtakeWhile Candidate.comparable = [] →
          candidates.getLast? = some elected) ∧
        (candidates.rtakeWhile Candidate.comparable ≠ [] →
          elected ∈ candidates.rtakeWhile Candidate.comparable ∧
            ∀ candidate ∈ candidates.rtakeWhile Candidate.comparable,
              candidate.metrics.baseValue ≤
                elected.metrics.baseValue) := by
  obtain ⟨elected, found⟩ :=
    maxBy_isSome (compareScores fun _ => evenDraw) nonempty
  refine ⟨elected, maxBy_mem found, found, ?_, ?_⟩
  · rw [electLeader, found, Option.map_some]
  · refine
      maxBy_of_incomparable
        (fun count left right => compareScores_gt_iff_of_comparable count)
        ?_ found
    intro count left right incomparable
    rw [compareScores_of_incomparable count incomparable]
    decide

/-- A node on a system that reports no memory. -/
def withoutMemory (id : UInt64) : Candidate where
  id := id
  metrics :=
    collectMetrics
      { globalCpuUsage := (0 : ℚ)
        totalMemory := 0
        availableMemory := 0
        loadAverageOne := (0 : ℚ)
        available_le_total := Nat.le_refl 0 }
  score := .nan

/-- It stands between two others. -/
def memoryLost : List Candidate :=
  [scored 1 2, withoutMemory 2, scored 3 1]

theorem electLeader_of_incomparable_memoryLost :
    ∃ elected ∈ memoryLost,
      maxBy (compareScores fun _ => evenDraw) memoryLost =
          some elected ∧
        electLeader (fun _ => evenDraw) memoryLost = some elected.id ∧
        (memoryLost.rtakeWhile Candidate.comparable = [] →
          memoryLost.getLast? = some elected) ∧
        (memoryLost.rtakeWhile Candidate.comparable ≠ [] →
          elected ∈ memoryLost.rtakeWhile Candidate.comparable ∧
            ∀ candidate ∈ memoryLost.rtakeWhile Candidate.comparable,
              candidate.metrics.baseValue ≤
                elected.metrics.baseValue) :=
  electLeader_of_incomparable (List.cons_ne_nil _ _)

/-- At the end of the list it is elected before the only comparable
candidate. -/
theorem withoutMemory_elected :
    ¬ ∀ (candidates : List Candidate) (elected : Candidate),
      (∃ candidate ∈ candidates, candidate.comparable = true) →
        maxBy (compareScores fun _ => evenDraw) candidates =
            some elected →
          elected.comparable = true ∧
            ∀ candidate ∈ candidates, candidate.comparable = true →
              candidate.metrics.baseValue ≤
                elected.metrics.baseValue := by
  intro undisturbed
  have wins :=
    undisturbed [scored 1 2, withoutMemory 2] (withoutMemory 2)
      ⟨scored 1 2, List.mem_cons_self, by decide +kernel⟩
      (by decide +kernel)
  have isNan : (withoutMemory 2).comparable = false := by
    decide +kernel
  rw [isNan] at wins
  cases wins.1

end CloudP2P.Election
