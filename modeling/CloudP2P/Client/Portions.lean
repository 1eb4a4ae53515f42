import CloudP2P.Client.Retry
import Mathlib.Data.List.TakeWhile

/-!
# The portions of the secret images

`main` of the client splits the secret images into three portions and gives
each to a task of its own, which goes through its files one by one.  `?`
ends the task at the first file that it cannot use; the loop over the
results of the tasks looks at the outer `Result` only.
-/

universe u

namespace CloudP2P.Client

open Provider (Bytes)

/-- A file name, which need not be UTF-8. -/
inductive OsStr where
  | utf8 (name : String)
  | other (bytes : Bytes)

def OsStr.toStr : OsStr → Option String
  | .utf8 name => some name
  | .other _ => none

/-- An entry of `secret_images`: what `file_name` gives for it, and what
`File::open` and `file_to_bytes` do. -/
structure SecretFile where
  fileName : Option OsStr
  opened : Except String Bytes

/-- The arguments of a remote `encode`. -/
structure EncodeRequest where
  secretImageBytes : Bytes
  stegoPath : String
  secretFileName : String

/-- What the task of a portion does with a file before its retry loop. -/
def SecretFile.prepare (file : SecretFile) : Except String EncodeRequest :=
  match file.fileName with
  | none => .error "Failed to get filename"
  | some name =>
      match name.toStr with
      | none => .error "Failed to convert filename to string"
      | some secretFileName =>
          match file.opened with
          | .error message =>
              .error ("Failed to open secret file: " ++ message)
          | .ok secretImageBytes =>
              .ok
                { secretImageBytes := secretImageBytes
                  stegoPath :=
                    "encoded_images/stego_" ++ secretFileName ++ ".png"
                  secretFileName := secretFileName }

/-- A file, and how the servers answer in the rounds of its retry loop. -/
structure SecretImage where
  file : SecretFile
  rounds : Nat → List ServerOutcome

/-! ## The split -/

section Split

variable {Item : Type u}

/-- The first `count` chunks, or fewer when the items run out. -/
def takeChunks (chunkSize : Nat) : Nat → List Item → List (List Item)
  | 0, _ => []
  | _ + 1, [] => []
  | count + 1, item :: items =>
      (item :: items).take chunkSize ::
        takeChunks chunkSize count ((item :: items).drop chunkSize)

/-- `slice::chunks`, which panics for a size of 0. -/
def chunks (chunkSize : Nat) (items : List Item) :
    Option (List (List Item)) :=
  if chunkSize = 0 then
    none
  else
    some (takeChunks chunkSize items.length items)

/-- `secret_images_chunks`; `none` when `chunks` panics. -/
def splitPortions (items : List Item) : Option (List (List Item)) :=
  (chunks ((items.length + 2) / 3) items).map fun portions =>
    portions ++ List.replicate (3 - portions.length) []

theorem flatten_takeChunks
    {chunkSize : Nat} (positive : chunkSize ≠ 0)
    {count : Nat} {items : List Item} (enough : items.length ≤ count) :
    (takeChunks chunkSize count items).flatten = items := by
  induction count generalizing items with
  | zero =>
      have empty : items = [] :=
        List.eq_nil_of_length_eq_zero (Nat.le_zero.mp enough)
      rw [empty]
      rfl
  | succ count inductionHypothesis =>
      cases items with
      | nil =>
          rfl
      | cons item items =>
          have fewer :
              ((item :: items).drop chunkSize).length ≤ count := by
            rw [List.length_drop]
            omega
          rw [takeChunks, List.flatten_cons, inductionHypothesis fewer,
            List.take_append_drop]

/-- Every item is in some portion. -/
theorem flatten_splitPortions
    {items : List Item} {portions : List (List Item)}
    (split : splitPortions items = some portions) :
    portions.flatten = items := by
  obtain ⟨full, chunked, padded⟩ := Option.map_eq_some_iff.mp split
  unfold chunks at chunked
  split_ifs at chunked with zero
  cases chunked
  rw [← padded, List.flatten_append, List.flatten_replicate_nil,
    List.append_nil]
  exact flatten_takeChunks zero (Nat.le_refl _)

theorem splitPortions_of_ne_nil
    {items : List Item} (nonempty : items ≠ []) :
    ∃ portions, splitPortions items = some portions := by
  have some_item : 0 < items.length :=
    List.length_pos_of_ne_nil nonempty
  have positive : (items.length + 2) / 3 ≠ 0 := by
    omega
  simp [splitPortions, chunks, positive]

/-- Items that fit into `limit` chunks make no more than that. -/
theorem length_takeChunks_le
    {chunkSize count limit : Nat} {items : List Item}
    (fits : items.length ≤ limit * chunkSize) :
    (takeChunks chunkSize count items).length ≤ limit := by
  induction count generalizing limit items with
  | zero =>
      exact Nat.zero_le limit
  | succ count inductionHypothesis =>
      cases items with
      | nil =>
          exact Nat.zero_le limit
      | cons item items =>
          cases limit with
          | zero =>
              rw [Nat.zero_mul] at fits
              exact absurd fits (Nat.not_succ_le_zero _)
          | succ limit =>
              have restFits :
                  ((item :: items).drop chunkSize).length ≤
                    limit * chunkSize := by
                rw [Nat.succ_mul] at fits
                rw [List.length_drop]
                omega
              rw [takeChunks, List.length_cons]
              exact Nat.succ_le_succ (inductionHypothesis restFits)

/-- There is never a fourth chunk, and the padding adds the missing ones. -/
theorem length_splitPortions
    {items : List Item} {portions : List (List Item)}
    (split : splitPortions items = some portions) :
    portions.length = 3 := by
  obtain ⟨full, chunked, padded⟩ := Option.map_eq_some_iff.mp split
  unfold chunks at chunked
  split_ifs at chunked
  cases chunked
  have atMost :
      (takeChunks ((items.length + 2) / 3) items.length items).length ≤
        3 := by
    apply length_takeChunks_le
    omega
  rw [← padded, List.length_append, List.length_replicate]
  omega

/-- `chunks` is given the size 0 when there is nothing to split. -/
theorem splitPortions_nil : splitPortions ([] : List Item) = none := by
  simp [splitPortions, chunks]

/-- The images are split into three portions, in order and without loss, if
and only if there are any. -/
theorem splitPortions_partitions_iff (items : List Item) :
    (∃ portions, splitPortions items = some portions ∧
      portions.length = 3 ∧ portions.flatten = items) ↔
      items ≠ [] := by
  constructor
  · rintro ⟨portions, split, _, _⟩ empty
    rw [empty, splitPortions_nil] at split
    cases split
  · intro nonempty
    obtain ⟨portions, split⟩ := splitPortions_of_ne_nil nonempty
    exact
      ⟨portions, split, length_splitPortions split,
        flatten_splitPortions split⟩

/-- Without images the client panics. -/
theorem no_images_panic :
    ¬ ∀ items : List String, ∃ portions,
      splitPortions items = some portions ∧
        portions.length = 3 ∧ portions.flatten = items := by
  intro partitions
  obtain ⟨portions, split, _⟩ := partitions []
  rw [splitPortions_nil] at split
  cases split

end Split

/-! ## The task of a portion -/

/-- What the task of a portion has submitted, and its result when it has
ended. -/
structure PortionTask where
  submitted : List EncodeRequest
  result : Option (Except String Unit)

/-- The files of a portion one after the other, when each retry loop may take
`fuel + 1` rounds. -/
def processPortion (fuel : Nat) : List SecretImage → PortionTask
  | [] =>
      { submitted := []
        result := some (.ok ()) }
  | image :: images =>
      match image.file.prepare with
      | .error message =>
          { submitted := []
            result := some (.error message) }
      | .ok request =>
          -- the loop always enters its first round, which sends the request
          match encodeLoop.run image.rounds (fuel + 1) .start with
          | none =>
              { submitted := [request]
                result := none }
          | some _ =>
              let rest := processPortion fuel images
              { rest with submitted := request :: rest.submitted }

/-- `join_all`: the results of all tasks, when all have ended. -/
def joinAll {Result : Type u} : List (Option Result) → Option (List Result)
  | [] => some []
  | none :: _ => none
  | some result :: tasks => (joinAll tasks).map (result :: ·)

/-- What the last loop of `main` prints for a portion: "Secret images
processed successfully" or "Error processing secret images". -/
inductive PortionReport where
  | processed
  | failed (error : JoinError)
  deriving DecidableEq

/-- The inner `Result` is not looked at. -/
def reportPortion :
    Except JoinError (Except String Unit) → PortionReport
  | .ok _ => .processed
  | .error error => .failed error

def reportPortions (fuel : Nat) (portions : List (List SecretImage)) :
    Option (List PortionReport) :=
  (joinAll
    (portions.map fun portion =>
      (processPortion fuel portion).result.map Except.ok)).map
    (List.map reportPortion)

/-- The portions that `main` gives to its tasks; none when it panics before
that. -/
def portionsOf (images : List SecretImage) : List (List SecretImage) :=
  (splitPortions images).getD []

theorem mem_portionsOf
    {images portion : List SecretImage} {image : SecretImage}
    (isPortion : portion ∈ portionsOf images) (member : image ∈ portion) :
    image ∈ images := by
  unfold portionsOf at isPortion
  cases split : splitPortions images with
  | none =>
      simp [split] at isPortion
  | some portions =>
      rw [split] at isPortion
      rw [← flatten_splitPortions split]
      exact List.mem_flatten.mpr ⟨portion, isPortion, member⟩

theorem exists_portionOf
    {images : List SecretImage} {image : SecretImage}
    (member : image ∈ images) :
    ∃ portion ∈ portionsOf images, image ∈ portion := by
  obtain ⟨portions, split⟩ :=
    splitPortions_of_ne_nil (List.ne_nil_of_mem member)
  rw [← flatten_splitPortions split] at member
  unfold portionsOf
  rw [split]
  exact List.mem_flatten.mp member

/-! ## What is submitted -/

namespace SecretImage

/-- The name is UTF-8 and the file opens. -/
def good (image : SecretImage) : Bool := image.file.prepare.isOk

/-- In some round some task does not panic. -/
def Answered (image : SecretImage) : Prop :=
  ∃ round, Joins (image.rounds round)

end SecretImage

/-- The requests for the good files. -/
def goodRequests (images : List SecretImage) : List EncodeRequest :=
  images.filterMap fun image => image.file.prepare.toOption

section Task

variable {fuel : Nat} {portion : List SecretImage}

theorem goodRequests_eq_nil_iff {images : List SecretImage} :
    goodRequests images = [] ↔ ∀ image ∈ images, image.good = false := by
  unfold goodRequests
  rw [List.filterMap_eq_nil_iff]
  refine forall₂_congr fun image _ => ?_
  unfold SecretImage.good
  cases image.file.prepare with
  | error message | ok request =>
      simp [Except.toOption, Except.isOk, Except.toBool]

theorem goodRequests_cons (image : SecretImage) (images : List SecretImage) :
    goodRequests (image :: images) =
      image.file.prepare.toOption.toList ++ goodRequests images := by
  cases prepared : image.file.prepare with
  | error message | ok request =>
      simp [goodRequests, prepared, Except.toOption]

/-- Every good file is submitted, unless it comes after one at which the task
stops. -/
theorem submitted_eq_iff :
    (processPortion fuel portion).submitted = goodRequests portion ↔
      portion.Pairwise fun earlier later =>
        later.good = true →
          earlier.good = true ∧
            (encodeLoop.run earlier.rounds (fuel + 1) .start).isSome =
              true := by
  induction portion with
  | nil =>
      simp [processPortion, goodRequests]
  | cons image images inductionHypothesis =>
      -- a task that stops here leaves the good files among `images` out
      have stopped :
          goodRequests images = [] ↔
            (∀ later ∈ images, ¬ later.good = true) ∧
              images.Pairwise fun earlier later =>
                later.good = true →
                  earlier.good = true ∧
                    (encodeLoop.run earlier.rounds (fuel + 1)
                      .start).isSome = true := by
        simp only [goodRequests_eq_nil_iff, Bool.not_eq_true]
        constructor
        · intro allBad
          refine ⟨allBad, List.pairwise_of_forall_mem_list ?_⟩
          intro earlier _ later member isGood
          rw [allBad later member] at isGood
          cases isGood
        · exact And.left
      rw [List.pairwise_cons]
      cases prepared : image.file.prepare with
      | error message =>
          have bad : image.good = false := by
            rw [SecretImage.good, prepared]
            rfl
          have nothing :
              (processPortion fuel (image :: images)).submitted = [] := by
            simp only [processPortion, prepared]
          rw [nothing, goodRequests_cons, prepared, eq_comm]
          simpa [Except.toOption, bad] using stopped
      | ok request =>
          have isGood : image.good = true := by
            rw [SecretImage.good, prepared]
            rfl
          cases ran : encodeLoop.run image.rounds (fuel + 1) .start with
          | none =>
              have only :
                  (processPortion fuel (image :: images)).submitted =
                    [request] := by
                simp only [processPortion, prepared, ran]
              rw [only, goodRequests_cons, prepared]
              simpa [Except.toOption, @eq_comm _ []] using stopped
          | some left =>
              have alsoRest :
                  (processPortion fuel (image :: images)).submitted =
                    request :: (processPortion fuel images).submitted := by
                simp only [processPortion, prepared, ran]
              rw [alsoRest, goodRequests_cons, prepared]
              simpa [Except.toOption, isGood] using inductionHypothesis

theorem result_isSome_iff :
    (processPortion fuel portion).result.isSome = true ↔
      ∀ image ∈ portion.takeWhile SecretImage.good,
        (encodeLoop.run image.rounds (fuel + 1) .start).isSome = true := by
  induction portion with
  | nil =>
      simp [processPortion]
  | cons image images inductionHypothesis =>
      rw [List.takeWhile_cons]
      cases prepared : image.file.prepare with
      | error message =>
          have bad : image.good = false := by
            rw [SecretImage.good, prepared]
            rfl
          simp [processPortion, prepared, bad]
      | ok request =>
          have isGood : image.good = true := by
            rw [SecretImage.good, prepared]
            rfl
          cases ran : encodeLoop.run image.rounds (fuel + 1) .start with
          | none =>
              simp [processPortion, prepared, ran, isGood]
          | some left =>
              simpa [processPortion, prepared, ran, isGood] using
                inductionHypothesis

end Task

/-! ## What is reported -/

section Report

variable {fuel : Nat} {portions : List (List SecretImage)}
variable {reports : List PortionReport}

theorem reportPortions_cons
    (portion : List SecretImage) (portions : List (List SecretImage)) :
    reportPortions fuel (portion :: portions) =
      (processPortion fuel portion).result.bind fun _ =>
        (reportPortions fuel portions).map (.processed :: ·) := by
  unfold reportPortions
  rw [List.map_cons]
  cases (processPortion fuel portion).result with
  | none =>
      rfl
  | some result =>
      simp [joinAll, reportPortion, Function.comp_def]

/-- A portion is reported as processed however its task has ended. -/
theorem reportPortions_eq_some_iff :
    reportPortions fuel portions = some reports ↔
      (∀ portion ∈ portions,
        (processPortion fuel portion).result.isSome = true) ∧
        reports = portions.map fun _ => .processed := by
  induction portions generalizing reports with
  | nil =>
      constructor
      · intro reported
        cases reported
        exact ⟨nofun, rfl⟩
      · rintro ⟨_, same⟩
        rw [same]
        rfl
  | cons portion portions inductionHypothesis =>
      rw [reportPortions_cons, List.forall_mem_cons, List.map_cons]
      cases (processPortion fuel portion).result with
      | none =>
          simp
      | some result =>
          simp only [Option.bind_some, Option.map_eq_some_iff,
            Option.isSome_some, true_and, inductionHypothesis]
          constructor
          · rintro ⟨rest, ⟨ended, same⟩, consed⟩
            exact ⟨ended, consed ▸ same ▸ rfl⟩
          · rintro ⟨ended, same⟩
            exact ⟨_, ⟨ended, rfl⟩, same.symm⟩

/-- With enough fuel, every retry loop that leaves has left. -/
theorem exists_fuel (images : List SecretImage) :
    ∃ fuel, ∀ image ∈ images, image.Answered →
      (encodeLoop.run image.rounds (fuel + 1) .start).isSome = true := by
  induction images with
  | nil =>
      exact ⟨0, nofun⟩
  | cons image images inductionHypothesis =>
      obtain ⟨fuel, enough⟩ := inductionHypothesis
      by_cases answered : image.Answered
      · obtain ⟨round, joins⟩ := answered
        refine ⟨max fuel round, ?_⟩
        intro other member isAnswered
        rw [run_isSome_iff]
        rcases List.mem_cons.mp member with same | later
        · subst same
          exact ⟨round, by omega, joins⟩
        · obtain ⟨otherRound, less, otherJoins⟩ :=
            run_isSome_iff.mp (enough other later isAnswered)
          exact ⟨otherRound, by omega, otherJoins⟩
      · refine ⟨fuel, ?_⟩
        intro other member isAnswered
        rcases List.mem_cons.mp member with same | later
        · exact absurd (same ▸ isAnswered) answered
        · exact enough other later isAnswered

theorem answered_of_run
    {image : SecretImage}
    (ran : (encodeLoop.run image.rounds fuel .start).isSome = true) :
    image.Answered := by
  obtain ⟨round, _, joins⟩ := run_isSome_iff.mp ran
  exact ⟨round, joins⟩

end Report

/-! ## A bad file and the other ones -/

namespace SecretImage

/-- The file is processed without an error: no `?` returns one, and an
`encode` has returned `Ok` when its retry loop leaves. -/
def Processed (image : SecretImage) : Prop :=
  image.good = true ∧
    ∃ fuel count left,
      encodeLoop.run image.rounds fuel .start = some (count, left) ∧
        ∃ round < count, ∃ bytes, .encodeOk bytes ∈ image.rounds round

/-- In the first round in which some task does not panic, some server
encodes the image. -/
def Encodable (image : SecretImage) : Prop :=
  ∃ round, FirstJoins image.rounds round ∧
    ∃ bytes, .encodeOk bytes ∈ image.rounds round

theorem processed_iff (image : SecretImage) :
    image.Processed ↔ image.good = true ∧ image.Encodable := by
  refine and_congr_right fun _ => ?_
  constructor
  · rintro ⟨fuel, count, left, runs, encoded⟩
    exact (encoded_of_run_iff runs).mp encoded
  · rintro ⟨round, firstJoins, encoded⟩
    have runs :
        encodeLoop.run image.rounds (round + 1) .start =
          some
            (round + 1,
              encodeLoop.after image.rounds (round + 1) .start) :=
      run_iff.mpr ⟨rfl, round, Nat.lt_succ_self round, rfl, firstJoins⟩
    exact
      ⟨_, _, _, runs,
        (encoded_of_run_iff runs).mpr ⟨round, firstJoins, encoded⟩⟩

end SecretImage

/-- Every good file is submitted. -/
def AllSubmitted (images : List SecretImage) : Prop :=
  ∃ fuel, ∀ portion ∈ portionsOf images,
    (processPortion fuel portion).submitted = goodRequests portion

/-- Success is only reported for portions without an error. -/
def ReportsErrors (images : List SecretImage) : Prop :=
  ∀ fuel (reports : List PortionReport),
    reportPortions fuel (portionsOf images) = some reports →
      ∀ (index : Nat) portion,
        (portionsOf images)[index]? = some portion →
          reports[index]? = some .processed →
            ∀ image ∈ portion, image.Processed

theorem allSubmitted_iff (images : List SecretImage) :
    AllSubmitted images ↔
      ∀ portion ∈ portionsOf images,
        portion.Pairwise fun earlier later =>
          later.good = true → earlier.good = true ∧ earlier.Answered := by
  constructor
  · rintro ⟨spent, submitted⟩ portion isPortion
    apply (submitted_eq_iff.mp (submitted portion isPortion)).imp
    intro earlier later stops isGood
    exact ⟨(stops isGood).1, answered_of_run (stops isGood).2⟩
  · intro notAfter
    obtain ⟨fuel, enough⟩ := exists_fuel images
    refine ⟨fuel, ?_⟩
    intro portion isPortion
    rw [submitted_eq_iff]
    apply (notAfter portion isPortion).imp_of_mem
    intro earlier later member _ stops isGood
    exact
      ⟨(stops isGood).1,
        enough earlier (mem_portionsOf isPortion member) (stops isGood).2⟩

theorem reportsErrors_iff (images : List SecretImage) :
    ReportsErrors images ↔
      ((∀ portion ∈ portionsOf images,
        ∀ image ∈ portion.takeWhile SecretImage.good, image.Answered) →
          ∀ image ∈ images, image.good = true ∧ image.Encodable) := by
  constructor
  · intro reportsErrors answered image member
    obtain ⟨fuel, enough⟩ := exists_fuel images
    have ended :
        ∀ portion ∈ portionsOf images,
          (processPortion fuel portion).result.isSome = true := by
      intro portion isPortion
      rw [result_isSome_iff]
      intro other inPrefix
      have inPortion : other ∈ portion :=
        (List.takeWhile_prefix _).subset inPrefix
      exact
        enough other (mem_portionsOf isPortion inPortion)
          (answered portion isPortion other inPrefix)
    obtain ⟨portion, isPortion, inPortion⟩ := exists_portionOf member
    obtain ⟨index, found⟩ := List.getElem?_of_mem isPortion
    have reported := reportPortions_eq_some_iff.mpr ⟨ended, rfl⟩
    have isProcessed :
        ((portionsOf images).map fun _ => PortionReport.processed)[index]? =
          some .processed := by
      rw [List.getElem?_map, found]
      rfl
    exact
      image.processed_iff.mp
        (reportsErrors fuel _ reported index portion found isProcessed image
          inPortion)
  · intro noError spent reports reported index portion found _ image member
    have ended := (reportPortions_eq_some_iff.mp reported).1
    have answered :
        ∀ other ∈ portionsOf images,
          ∀ image ∈ other.takeWhile SecretImage.good, image.Answered := by
      intro other isPortion image inPrefix
      exact
        answered_of_run
          (result_isSome_iff.mp (ended other isPortion) image inPrefix)
    have inImages : image ∈ images :=
      mem_portionsOf (List.mem_of_getElem? found) member
    exact image.processed_iff.mpr (noError answered image inImages)

/-- The good files are all submitted if and only if in no portion one of them
comes after a file that is bad, or whose server tasks panic in every round.
Success is only reported for portions without an error if and only if every
file is good and encoded by some server in the first round in which some task
does not panic, or the task of some portion never ends, because it comes to a
good file whose server tasks panic in every round. -/
theorem portions_iff (images : List SecretImage) :
    (AllSubmitted images ↔
      ∀ portion ∈ portionsOf images,
        portion.Pairwise fun earlier later =>
          later.good = true → earlier.good = true ∧ earlier.Answered) ∧
      (ReportsErrors images ↔
        ((∀ portion ∈ portionsOf images,
          ∀ image ∈ portion.takeWhile SecretImage.good, image.Answered) →
            ∀ image ∈ images, image.good = true ∧ image.Encodable)) :=
  ⟨allSubmitted_iff images, reportsErrors_iff images⟩

/-- A name that is not UTF-8. -/
def unnamed : SecretImage where
  file :=
    { fileName := some (.other [0xff])
      opened := .ok [1] }
  rounds _ := [.encodeOk [9]]

def named (name : String) : SecretImage where
  file :=
    { fileName := some (.utf8 name)
      opened := .ok [2] }
  rounds _ := [.encodeOk [9]]

/-- Four files make portions of two: the first one ends the task of the
second one. -/
def badFirst : List SecretImage :=
  [unnamed, named "b.png", named "c.png", named "d.png"]

/-- `b.png` is never sent, and no error is reported. -/
theorem bad_file_stops_others :
    ¬ AllSubmitted badFirst ∧ ¬ ReportsErrors badFirst := by
  constructor
  · rintro ⟨fuel, submitted⟩
    have first := submitted [unnamed, named "b.png"] List.mem_cons_self
    cases first
  · intro reportsErrors
    have bad :=
      reportsErrors 0 [.processed, .processed, .processed] rfl 0
        [unnamed, named "b.png"] rfl rfl unnamed List.mem_cons_self
    cases bad.1

end CloudP2P.Client
