import CloudP2P.StoreProgram
import Mathlib.Data.Fin.VecNotation
import Mathlib.Data.List.Basic

/-!
# The steganographer

`SomeImageSteganographer::encode` and `decode` of the provider as programs
over the file system, a map from paths to contents; every access to a file is
a step of its own.  `stegano_core` and `image` are a parameter: what they do
is a function of the contents they read, and of the paths they are given.
-/

universe u v

namespace CloudP2P.Provider

abbrev Bytes := List UInt8

abbrev FileSystem := Store String Bytes

/-- What a call gives back to its client. -/
inductive Outcome where
  | ok (buffer : Bytes)
  | err (message : String)
  | panicked
  deriving DecidableEq

/-- What `hide` writes to its output path, if anything, and whether it
returns. -/
inductive HideOutcome where
  | returned (written : Option Bytes)
  | panicked (written : Option Bytes)

/-- `DynamicImage::save`; a failed attempt may leave contents as well. -/
inductive SaveOutcome where
  | saved (contents : Bytes)
  | failed (written : Option Bytes)

/-- `stegano_core` and `image`.  A missing file is the contents `none`. -/
structure Codec (Image : Type u) where
  /-- whether `use_media` succeeds on the carrier -/
  useMedia : Option Bytes → Bool
  /-- from the path and the contents of the hidden file, the carrier, and
  the path to write to, whose directory or extension may not do -/
  hide : String → Option Bytes → Option Bytes → String → HideOutcome
  openImage : String → Option Bytes → Option Image
  loadFromMemory : Bytes → Option Image
  save : String → Image → SaveOutcome
  writePng : Image → Except String Bytes
  /-- the files that `unveil` writes, given its destination -/
  unveil : String → Option Bytes → List (String × Bytes)

/-- The errors of the file system during `encode`; `write` comes with the
number of bytes written before it. -/
structure EncodeErrors where
  create : Option String
  write : Option (Nat × String)
  flush : Option String
  remove : Option String

def EncodeErrors.none : EncodeErrors where
  create := .none
  write := .none
  flush := .none
  remove := .none

/-- The arguments of `encode`, the time and the random number it draws, and
the errors it meets. -/
structure EncodeCall where
  secretImage : Bytes
  outputPath : String
  fileName : String
  timestamp : Nat
  randomNum : Fin 1000
  errors : EncodeErrors

structure DecodeCall where
  encodedImage : Bytes
  decodedImagePath : String
  fileName : String

abbrev FileProgram := StoreProgram String Bytes Outcome

/-- `io::Error` of a missing file, as text. -/
def notFound : String := "No such file or directory (os error 2)"

def carrierPath : String := "carrier.png"

/-- `temp_enc_path` -/
def tempEncPath : String := "/tmp/encoded_image.png"

/-- `std::fs::remove_file`, the last step of a call that has its buffer. -/
def removeFile (path : String) (error : Option String) (buffer : Bytes) :
    FileProgram :=
  match error with
  | some message => .done (.err message)
  | none =>
      .swap path none fun removed =>
        match removed with
        | some _ => .done (.ok buffer)
        | none => .done (.err notFound)

/-- Write one file after the other. -/
def storeFiles : List (String × Bytes) → FileProgram → FileProgram
  | [], next => next
  | (path, contents) :: rest, next =>
      .swap path (some contents) fun _ => storeFiles rest next

namespace EncodeCall

variable {Image : Type u} (codec : Codec Image) (call : EncodeCall)

def tempSecretPath : String :=
  "/tmp/" ++ toString call.timestamp ++ "_" ++
    toString call.randomNum.val ++ "_" ++ call.fileName

/-- From `image::open(output_path)` on. -/
def readBack : FileProgram :=
  .read call.outputPath fun stored =>
    match codec.openImage call.outputPath stored with
    | none => .done .panicked
    | some image =>
        match codec.writePng image with
        | .error message => .done (.err message)
        | .ok buffer =>
            removeFile call.tempSecretPath call.errors.remove buffer

/-- The chain from `hide_file` to `hide`; what `hide` returns is not looked
at. -/
def hideSecret : FileProgram :=
  .read call.tempSecretPath fun hidden =>
    .read carrierPath fun carrier =>
      if codec.useMedia carrier then
        match codec.hide call.tempSecretPath hidden carrier
            call.outputPath with
        | .returned none => call.readBack codec
        | .returned (some contents) =>
            .swap call.outputPath (some contents) fun _ =>
              call.readBack codec
        | .panicked none => .done .panicked
        | .panicked (some contents) =>
            .swap call.outputPath (some contents) fun _ =>
              .done .panicked
      else
        .done .panicked

def encode : FileProgram :=
  match call.errors.create, call.errors.write with
  | some message, _ => .done (.err message)
  | none, some (written, message) =>
      .swap call.tempSecretPath (some (call.secretImage.take written))
        fun _ => .done (.err message)
  | none, none =>
      .swap call.tempSecretPath (some call.secretImage) fun _ =>
        match call.errors.flush with
        | some message => .done (.err message)
        | none => call.hideSecret codec

/-- The paths that `encode` writes or removes. -/
def writes : List String := [call.tempSecretPath, call.outputPath]

end EncodeCall

def EncodeCall.reads : List String := [carrierPath]

namespace DecodeCall

variable {Image : Type u} (codec : Codec Image) (call : DecodeCall)

def newDecodedImagePath : String :=
  call.decodedImagePath ++ "/" ++ call.fileName

/-- From `image::open(new_decoded_image_path)` on. -/
def readBack : FileProgram :=
  .read call.newDecodedImagePath fun stored =>
    match codec.openImage call.newDecodedImagePath stored with
    | none => .done .panicked
    | some image =>
        match codec.writePng image with
        | .error message => .done (.err message)
        | .ok buffer => removeFile tempEncPath none buffer

def decode : FileProgram :=
  match codec.loadFromMemory call.encodedImage with
  | none => .done .panicked
  | some image =>
      match codec.save tempEncPath image with
      | .failed none => .done .panicked
      | .failed (some contents) =>
          .swap tempEncPath (some contents) fun _ => .done .panicked
      | .saved contents =>
          .swap tempEncPath (some contents) fun _ =>
            .read tempEncPath fun saved =>
              storeFiles (codec.unveil call.decodedImagePath saved)
                (call.readBack codec)

/-- The files that `unveil` writes, when the image has been saved. -/
def unveiled : List (String × Bytes) :=
  match codec.loadFromMemory call.encodedImage with
  | none => []
  | some image =>
      match codec.save tempEncPath image with
      | .failed _ => []
      | .saved contents =>
          codec.unveil call.decodedImagePath (some contents)

/-- The paths that `decode` writes or removes. -/
def writes : List String :=
  match codec.loadFromMemory call.encodedImage with
  | none => []
  | some _ => tempEncPath :: (call.unveiled codec).map Prod.fst

def reads : List String := [call.newDecodedImagePath]

end DecodeCall

/-! ## Which files a call uses -/

section Footprint

variable {Image : Type u} {codec : Codec Image}
variable {writes reads : List String} {files : FileSystem}

open StoreProgram

theorem staysWithin_removeFile
    {path : String} (error : Option String) (buffer : Bytes)
    (allowed : path ∈ writes) :
    StaysWithin writes reads (removeFile path error buffer) files := by
  unfold removeFile
  cases error with
  | some message =>
      trivial
  | none =>
      refine ⟨allowed, ?_⟩
      dsimp only
      split <;> trivial

theorem staysWithin_storeFiles
    {stored : List (String × Bytes)} {next : FileProgram}
    (allowed : ∀ file ∈ stored, file.1 ∈ writes)
    (rest : ∀ later, StaysWithin writes reads next later) :
    StaysWithin writes reads (storeFiles stored next) files := by
  induction stored generalizing files with
  | nil =>
      exact rest files
  | cons file others inductionHypothesis =>
      refine ⟨allowed file List.mem_cons_self, ?_⟩
      apply inductionHypothesis
      intro other member
      exact allowed other (List.mem_cons_of_mem file member)

private theorem staysWithin_readBack_encode
    (call : EncodeCall) (later : FileSystem) :
    StaysWithin call.writes EncodeCall.reads (call.readBack codec)
      later := by
  refine ⟨Or.inl (by simp [EncodeCall.writes]), ?_⟩
  dsimp only
  split
  · trivial
  · split
    · trivial
    · apply staysWithin_removeFile
      simp [EncodeCall.writes]

theorem staysWithin_encode (call : EncodeCall) (files : FileSystem) :
    StaysWithin call.writes EncodeCall.reads (call.encode codec)
      files := by
  have temp : call.tempSecretPath ∈ call.writes := by
    simp [EncodeCall.writes]
  have output : call.outputPath ∈ call.writes := by
    simp [EncodeCall.writes]
  unfold EncodeCall.encode
  split
  · trivial
  · exact ⟨temp, trivial⟩
  · refine ⟨temp, ?_⟩
    dsimp only
    split
    · trivial
    · refine ⟨Or.inl temp, Or.inr (by simp [EncodeCall.reads]), ?_⟩
      dsimp only
      split
      · split
        · exact staysWithin_readBack_encode call _
        · exact ⟨output, staysWithin_readBack_encode call _⟩
        · trivial
        · exact ⟨output, trivial⟩
      · trivial

private theorem staysWithin_readBack_decode
    (call : DecodeCall) (temp : tempEncPath ∈ writes)
    (later : FileSystem) :
    StaysWithin writes call.reads (call.readBack codec) later := by
  refine ⟨Or.inr (by simp [DecodeCall.reads]), ?_⟩
  dsimp only
  split
  · trivial
  · split
    · trivial
    · exact staysWithin_removeFile _ _ temp

theorem staysWithin_decode (call : DecodeCall) (files : FileSystem) :
    StaysWithin (call.writes codec) call.reads (call.decode codec)
      files := by
  unfold DecodeCall.decode
  split
  · trivial
  · rename_i image loaded
    have temp : tempEncPath ∈ call.writes codec := by
      simp [DecodeCall.writes, loaded]
    split
    · trivial
    · exact ⟨temp, trivial⟩
    · rename_i contents saved
      refine ⟨temp, Or.inl temp, ?_⟩
      rw [Function.update_self]
      apply staysWithin_storeFiles
      · intro file member
        simp only [DecodeCall.writes, loaded, DecodeCall.unveiled, saved]
        exact
          List.mem_cons_of_mem tempEncPath (List.mem_map_of_mem member)
      · exact staysWithin_readBack_decode call temp

end Footprint

/-! ## Calls at the same time -/

inductive Call where
  | encode (call : EncodeCall)
  | decode (call : DecodeCall)

namespace Call

variable {Image : Type u} (codec : Codec Image)

def program : Call → FileProgram
  | .encode call => call.encode codec
  | .decode call => call.decode codec

/-- The paths that the call writes or removes. -/
def writes : Call → List String
  | .encode call => call.writes
  | .decode call => call.writes codec

/-- The paths that the call only reads. -/
def reads : Call → List String
  | .encode _ => EncodeCall.reads
  | .decode call => call.reads

end Call

section Concurrency

variable {Image : Type u} {Index : Type v} [DecidableEq Index]

/-- Running alone, no call writes or removes a file that another one uses
when it runs alone. -/
def CallsApart (codec : Codec Image) (files : FileSystem)
    (calls : Index → Call) : Prop :=
  StoreProgram.Apart files fun index => (calls index).program codec

omit [DecidableEq Index] in
/-- Calls are apart when the paths that they may use are, however far they
get. -/
theorem callsApart_of_paths
    {codec : Codec Image} {calls : Index → Call} (files : FileSystem)
    (separate :
      ∀ writer other, writer ≠ other →
        ∀ path ∈ (calls writer).writes codec,
          path ∉ (calls other).writes codec ∧
            path ∉ (calls other).reads) :
    CallsApart codec files calls := by
  have within :
      ∀ other,
        StoreProgram.StaysWithin ((calls other).writes codec)
          (calls other).reads ((calls other).program codec) files := by
    intro other
    cases calls other with
    | encode call =>
        exact staysWithin_encode call files
    | decode call =>
        exact staysWithin_decode call files
  exact StoreProgram.apart_of_staysWithin within separate

/-- The calls take turns on the file system, one file access at a time. -/
def concurrentCalls (codec : Codec Image) (files : FileSystem)
    (calls : Index → Call) :
    TransitionSystem (FileSystem × (Index → FileProgram)) Index :=
  StoreProgram.interleaved files fun index => (calls index).program codec

/-- What a call returns when it runs alone. -/
def Call.outcome (codec : Codec Image) (files : FileSystem)
    (call : Call) : Outcome :=
  ((call.program codec).run files).1

/-- Calls none of which writes a file that another one uses return what they
return alone, however their steps interleave. -/
theorem calls_independent
    {codec : Codec Image} {files : FileSystem} {calls : Index → Call}
    {state : FileSystem × (Index → FileProgram)}
    (apart : CallsApart codec files calls)
    (reachable : (concurrentCalls codec files calls).Reachable state)
    (index : Index) :
    (∀ outcome, (state.2 index).result = some outcome →
      outcome = (calls index).outcome codec files) ∧
      ((state.2 index).run state.1).1 =
        (calls index).outcome codec files := by
  constructor
  · intro outcome ended
    exact StoreProgram.result_of_reachable apart reachable ended
  · exact StoreProgram.run_of_reachable apart reachable index

end Concurrency

/-! ## Two clients with files of one name -/

/-- An image is its bytes, the first of which carries the rest. -/
def plainCodec : Codec Bytes where
  useMedia := Option.isSome
  hide _ hidden carrier _ :=
    .returned (carrier.bind fun media => hidden.map (media ++ ·))
  openImage _ stored := stored
  loadFromMemory encoded := some encoded
  save _ image := .saved image
  writePng image := .ok image
  unveil directory saved :=
    saved.toList.map fun encoded => (directory ++ "/a.png", encoded.tail)

/-- A file system that holds a carrier of one byte. -/
def carrierOnly : FileSystem :=
  Function.update (fun _ => none) carrierPath (some [9])

/-- `encode` of a file `a.png`. -/
def encodeNamed (secret : UInt8) (outputPath : String)
    (randomNum : Fin 1000) : Call :=
  .encode
    { secretImage := [secret]
      outputPath := outputPath
      fileName := "a.png"
      timestamp := 1700000000
      randomNum := randomNum
      errors := EncodeErrors.none }

def decodeNamed (secret : UInt8) (directory : String) : Call :=
  .decode
    { encodedImage := [9, secret]
      decodedImagePath := directory
      fileName := "a.png" }

/-- The state after some steps of some calls. -/
def replayCalls (calls : Fin 2 → Call) (schedule : List (Fin 2)) :
    Option (FileSystem × (Fin 2 → FileProgram)) :=
  (concurrentCalls plainCodec carrierOnly calls).run
    (carrierOnly, fun index => (calls index).program plainCodec) schedule

theorem reachable_of_replayCalls
    {calls : Fin 2 → Call} {schedule : List (Fin 2)}
    {state : FileSystem × (Fin 2 → FileProgram)}
    (replay : replayCalls calls schedule = some state) :
    (concurrentCalls plainCodec carrierOnly calls).Reachable state :=
  ⟨_, rfl, TransitionSystem.runsWhere_of_run replay⟩

/-- Two clients with output paths of their own. -/
def ownOutputs : Fin 2 → Call :=
  ![encodeNamed 1 "encoded_images/stego_a.png.png" 5,
    encodeNamed 2 "other_images/stego_a.png.png" 6]

theorem ownOutputs_apart :
    CallsApart plainCodec carrierOnly ownOutputs :=
  callsApart_of_paths carrierOnly (by decide +kernel)

def ownOutputsEnd : FileSystem × (Fin 2 → FileProgram) :=
  (replayCalls ownOutputs [0, 0, 0, 0, 1, 1, 1, 1, 0, 0, 1]).get
    (by decide +kernel)

theorem calls_independent_ownOutputs :
    Outcome.ok [9, 1] =
        (ownOutputs 0).outcome plainCodec carrierOnly ∧
      ((ownOutputsEnd.2 1).run ownOutputsEnd.1).1 =
        (ownOutputs 1).outcome plainCodec carrierOnly := by
  have reachable :=
    reachable_of_replayCalls
      (Option.some_get
        (by decide +kernel :
          (replayCalls ownOutputs
            [0, 0, 0, 0, 1, 1, 1, 1, 0, 0, 1]).isSome = true)).symm
  have ended : (ownOutputsEnd.2 0).result = some (.ok [9, 1]) := by
    decide +kernel
  exact
    ⟨(calls_independent ownOutputs_apart reachable 0).1 _ ended,
      (calls_independent ownOutputs_apart reachable 1).2⟩

/-- Two clients choose the same output path. -/
def sameOutput : Fin 2 → Call :=
  ![encodeNamed 1 "encoded_images/stego_a.png.png" 5,
    encodeNamed 2 "encoded_images/stego_a.png.png" 6]

def sameOutputEnd : FileSystem × (Fin 2 → FileProgram) :=
  (replayCalls sameOutput [0, 0, 0, 0, 1, 1, 1, 1, 0, 0]).get
    (by decide +kernel)

/-- Two clients decode into directories of their own. -/
def sameTemp : Fin 2 → Call :=
  ![decodeNamed 1 "first", decodeNamed 2 "second"]

def sameTempEnd : FileSystem × (Fin 2 → FileProgram) :=
  (replayCalls sameTemp [1, 0, 1, 1, 1, 1]).get (by decide +kernel)

/-- Each call returns the secret of the other one. -/
theorem call_returns_other_secret :
    ((concurrentCalls plainCodec carrierOnly sameOutput).Reachable
        sameOutputEnd ∧
      (sameOutputEnd.2 0).result = some (.ok [9, 2]) ∧
      (sameOutput 0).outcome plainCodec carrierOnly = .ok [9, 1]) ∧
    (concurrentCalls plainCodec carrierOnly sameTemp).Reachable
        sameTempEnd ∧
      (sameTempEnd.2 1).result = some (.ok [1]) ∧
      (sameTemp 1).outcome plainCodec carrierOnly = .ok [2] := by
  have firstReachable :=
    reachable_of_replayCalls
      (Option.some_get
        (by decide +kernel :
          (replayCalls sameOutput
            [0, 0, 0, 0, 1, 1, 1, 1, 0, 0]).isSome = true)).symm
  have secondReachable :=
    reachable_of_replayCalls
      (Option.some_get
        (by decide +kernel :
          (replayCalls sameTemp [1, 0, 1, 1, 1, 1]).isSome = true)).symm
  exact
    ⟨⟨firstReachable, by decide +kernel, by decide +kernel⟩,
      secondReachable, by decide +kernel, by decide +kernel⟩

end CloudP2P.Provider
