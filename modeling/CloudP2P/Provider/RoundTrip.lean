import CloudP2P.Provider.Steganographer
import Mathlib.Data.List.TakeWhile

/-!
# Decoding what was encoded

`encode` hides a temporary file whose name starts with the time and a random
number, and `decode` looks for a file with the name that its caller gives:
it does not find it.  `decode` of the client has the text of the provider's.

Of `stegano_core` and `image` only the behaviour in `SteganoLaws` is used.
-/

universe u

namespace CloudP2P.Provider

open StoreProgram

/-- `Path::file_name` of a path that ends in a name. -/
def baseName (path : String) : String :=
  String.ofList (path.toList.reverse.takeWhile (· != '/')).reverse

theorem baseName_append
    (directory name : String) (plain : '/' ∉ name.toList) :
    baseName (directory ++ "/" ++ name) = name := by
  have kept :
      (name.toList.reverse ++ '/' :: directory.toList.reverse).takeWhile
          (· != '/') =
        name.toList.reverse := by
    rw [List.takeWhile_append_of_pos]
    · simp
    · intro letter member
      have different : letter ≠ '/' := by
        intro same
        exact plain (same ▸ List.mem_reverse.mp member)
      simpa using different
  unfold baseName
  rw [String.toList_append, String.toList_append, List.reverse_append,
    List.reverse_append]
  have slash : "/".toList.reverse = ['/'] := rfl
  rw [slash, List.singleton_append, kept, List.reverse_reverse,
    String.ofList_toList]

theorem slash_notMem_toString (number : Nat) :
    '/' ∉ (toString number).toList := by
  rw [Nat.toString_eq_ofList_toDigits, String.toList_ofList]
  intro member
  have digit :=
    Nat.isDigit_of_mem_toDigits (by decide) (by decide) member
  exact absurd digit (by decide)

/-- What `stegano_core` and `image` are relied on for.  `hidden` are the files
in a picture, and `Fits` says that a file is small enough for a carrier. -/
structure SteganoLaws {Image : Type u} (codec : Codec Image) where
  hidden : Image → List (String × Bytes)
  Fits : String → Bytes → Option Bytes → Prop
  /-- `hide` stores the file under the base name of its path, unless the
  output path will not do, when it panics. -/
  hide_stores :
    ∀ {path secret carrier}, Fits path secret carrier → ∀ outputPath,
      (∃ contents,
        codec.hide path (some secret) carrier outputPath =
            .returned (some contents) ∧
          ∀ {image},
            codec.openImage outputPath (some contents) = some image →
              hidden image = [(baseName path, secret)]) ∨
        ∃ written,
          codec.hide path (some secret) carrier outputPath =
            .panicked written
  /-- `unveil` writes each stored file under its stored name. -/
  unveil_writes :
    ∀ {path contents image},
      codec.openImage path (some contents) = some image →
        ∀ directory,
          codec.unveil directory (some contents) =
            (hidden image).map fun file =>
              (directory ++ "/" ++ file.1, file.2)
  /-- PNG is lossless. -/
  png_loads :
    ∀ {image bytes}, codec.writePng image = .ok bytes →
      codec.loadFromMemory bytes = some image
  png_saves :
    ∀ image, ∃ contents, codec.save tempEncPath image = .saved contents ∧
      codec.openImage tempEncPath (some contents) = some image
  missing_file : ∀ path, codec.openImage path none = none

/-- The name of the temporary file. -/
def EncodeCall.storedName (call : EncodeCall) : String :=
  toString call.timestamp ++ "_" ++ toString call.randomNum.val ++ "_" ++
    call.fileName

namespace EncodeCall

variable (call : EncodeCall)

theorem tempSecretPath_eq :
    call.tempSecretPath = "/tmp" ++ "/" ++ call.storedName := by
  simp [tempSecretPath, storedName, String.append_assoc]

theorem baseName_tempSecretPath (plain : '/' ∉ call.fileName.toList) :
    baseName call.tempSecretPath = call.storedName := by
  rw [tempSecretPath_eq]
  apply baseName_append
  have separator : '/' ∉ "_".toList := by decide
  simp only [storedName, String.toList_append, List.mem_append, not_or]
  exact
    ⟨⟨⟨⟨slash_notMem_toString _, separator⟩, slash_notMem_toString _⟩,
      separator⟩, plain⟩

/-- The temporary file never has the name of the caller. -/
theorem storedName_ne : call.storedName ≠ call.fileName := by
  intro same
  have lengths := congrArg String.length same
  simp only [storedName, String.length_append] at lengths
  have separator : "_".length = 1 := rfl
  omega

theorem stored_path_ne (directory : String) :
    directory ++ "/" ++ call.storedName ≠
      directory ++ "/" ++ call.fileName := by
  intro same
  exact call.storedName_ne ((String.append_right_inj _).mp same)

theorem tempSecretPath_ne_carrierPath :
    call.tempSecretPath ≠ carrierPath := by
  intro same
  have firstLetters :=
    congrArg (fun path => path.toList.head?) same
  have tmp : "/tmp".toList = ['/', 't', 'm', 'p'] := rfl
  have carrier : carrierPath.toList.head? = some 'c' := rfl
  simp only [tempSecretPath_eq, String.toList_append, tmp, carrier,
    List.cons_append, List.head?_cons, Option.some.injEq] at firstLetters
  exact absurd firstLetters (by decide)

end EncodeCall

section Runs

variable {Image : Type u} {codec : Codec Image}
variable {files : FileSystem} {bytes : Bytes}

theorem run_removeFile_ok
    {path : String} {error : Option String} {buffer : Bytes}
    (returned : ((removeFile path error buffer).run files).1 = .ok bytes) :
    buffer = bytes := by
  unfold removeFile at returned
  cases error with
  | some message =>
      cases returned
  | none =>
      dsimp only [run] at returned
      split at returned
      · cases returned
        rfl
      · cases returned

theorem EncodeCall.run_readBack_ok
    {call : EncodeCall}
    (returned : ((call.readBack codec).run files).1 = .ok bytes) :
    ∃ image,
      codec.openImage call.outputPath (files call.outputPath) =
          some image ∧
        codec.writePng image = .ok bytes := by
  dsimp only [EncodeCall.readBack, run] at returned
  split at returned
  · cases returned
  · rename_i image opened
    split at returned
    · cases returned
    · rename_i buffer written
      refine ⟨image, opened, ?_⟩
      rw [written, run_removeFile_ok returned]

/-- The picture that `encode` returns carries the secret under the name of
the temporary file. -/
theorem EncodeCall.hidden_of_run
    (laws : SteganoLaws codec) {call : EncodeCall}
    (plain : '/' ∉ call.fileName.toList)
    (fits :
      laws.Fits call.tempSecretPath call.secretImage (files carrierPath))
    (returned : ((call.encode codec).run files).1 = .ok bytes) :
    ∃ image, codec.writePng image = .ok bytes ∧
      laws.hidden image = [(call.storedName, call.secretImage)] := by
  have carrier :
      Function.update files call.tempSecretPath (some call.secretImage)
          carrierPath =
        files carrierPath :=
    Function.update_of_ne call.tempSecretPath_ne_carrierPath.symm _ _
  unfold EncodeCall.encode at returned
  split at returned
  · cases returned
  · cases returned
  · dsimp only [run] at returned
    split at returned
    · cases returned
    · dsimp only [EncodeCall.hideSecret, run] at returned
      rw [Function.update_self, carrier] at returned
      split at returned
      · rcases laws.hide_stores fits call.outputPath with
          ⟨contents, hides, stores⟩ | ⟨written, panics⟩
        · rw [hides] at returned
          dsimp only [run] at returned
          obtain ⟨image, opened, written⟩ :=
            EncodeCall.run_readBack_ok returned
          rw [Function.update_self] at opened
          refine ⟨image, written, ?_⟩
          rw [stores opened, call.baseName_tempSecretPath plain]
        · rw [panics] at returned
          cases written with
          | none | some contents =>
              cases returned
      · cases returned

namespace DecodeCall

variable {call : DecodeCall}

/-- What `decode` sees of a picture with one file in it. -/
theorem run_decode
    (laws : SteganoLaws codec) (call : DecodeCall) (later : FileSystem)
    {image : Image} {name : String} {contents : Bytes}
    (encoded : codec.writePng image = .ok call.encodedImage)
    (stored : laws.hidden image = [(name, contents)]) :
    ∃ saved, codec.openImage tempEncPath (some saved) = some image ∧
      ((call.decode codec).run later).1 =
        ((call.readBack codec).run
          (Function.update
            (Function.update later tempEncPath (some saved))
            (call.decodedImagePath ++ "/" ++ name) (some contents))).1 := by
  obtain ⟨saved, saves, opens⟩ := laws.png_saves image
  refine ⟨saved, opens, ?_⟩
  unfold DecodeCall.decode
  rw [laws.png_loads encoded]
  dsimp only
  rw [saves]
  dsimp only [run]
  rw [Function.update_self, laws.unveil_writes opens, stored]
  rfl

theorem run_readBack_of_missing
    (laws : SteganoLaws codec)
    (missing : files call.newDecodedImagePath = none) :
    ((call.readBack codec).run files).1 = .panicked := by
  dsimp only [DecodeCall.readBack, run]
  rw [missing, laws.missing_file]
  rfl

/-- When the destination is the decoder's own temporary file, the picture
itself is read back. -/
theorem run_readBack_of_tempEncPath
    {image : Image} {saved : Bytes}
    (own : call.newDecodedImagePath = tempEncPath)
    (present : files tempEncPath = some saved)
    (opens : codec.openImage tempEncPath (some saved) = some image)
    (encoded : codec.writePng image = .ok bytes) :
    ((call.readBack codec).run files).1 = .ok bytes := by
  dsimp only [DecodeCall.readBack, run]
  rw [own, present, opens]
  dsimp only
  rw [encoded]
  dsimp only [removeFile, run]
  rw [present]
  rfl

end DecodeCall

end Runs

/-! ## Decoding with the name that was encoded -/

/-- `outcome` is the PNG of the picture in `secret`. -/
def Recovers {Image : Type u} (codec : Codec Image) (secret : Bytes)
    (outcome : Outcome) : Prop :=
  ∃ image png, codec.loadFromMemory secret = some image ∧
    codec.writePng image = .ok png ∧ outcome = .ok png

/-- The call that decodes what `encode` returned, with the same name. -/
def EncodeCall.decodeBack (call : EncodeCall) (bytes : Bytes)
    (directory : String) : DecodeCall where
  encodedImage := bytes
  decodedImagePath := directory
  fileName := call.fileName

section RoundTrip

variable {Image : Type u} {codec : Codec Image} {call : EncodeCall}
variable {files later : FileSystem} {bytes : Bytes} {directory : String}

/-- Unless the destination is the decoder's own temporary file, `decode`
panics. -/
theorem decodeBack_panics
    (laws : SteganoLaws codec)
    (plain : '/' ∉ call.fileName.toList)
    (fits :
      laws.Fits call.tempSecretPath call.secretImage (files carrierPath))
    (returned : ((call.encode codec).run files).1 = .ok bytes)
    (absent : later (directory ++ "/" ++ call.fileName) = none)
    (notOwn : directory ++ "/" ++ call.fileName ≠ tempEncPath) :
    (((call.decodeBack bytes directory).decode codec).run later).1 =
      .panicked := by
  obtain ⟨image, written, stored⟩ :=
    EncodeCall.hidden_of_run laws plain fits returned
  obtain ⟨saved, _, decodes⟩ :=
    DecodeCall.run_decode laws (call.decodeBack bytes directory) later
      written stored
  rw [decodes]
  apply DecodeCall.run_readBack_of_missing laws
  calc
    Function.update (Function.update later tempEncPath (some saved))
          (directory ++ "/" ++ call.storedName) (some call.secretImage)
          (directory ++ "/" ++ call.fileName) =
        Function.update later tempEncPath (some saved)
          (directory ++ "/" ++ call.fileName) :=
      Function.update_of_ne (call.stored_path_ne directory).symm _ _
    _ = later (directory ++ "/" ++ call.fileName) :=
      Function.update_of_ne notOwn _ _
    _ = none := absent

/-- `decode` gives back the PNG of the secret only if its destination is its
own temporary file and the encoded picture already was that PNG. -/
theorem decode_recovers_iff
    (laws : SteganoLaws codec)
    (plain : '/' ∉ call.fileName.toList)
    (fits :
      laws.Fits call.tempSecretPath call.secretImage (files carrierPath))
    (returned : ((call.encode codec).run files).1 = .ok bytes)
    (absent : later (directory ++ "/" ++ call.fileName) = none) :
    Recovers codec call.secretImage
        (((call.decodeBack bytes directory).decode codec).run later).1 ↔
      directory ++ "/" ++ call.fileName = tempEncPath ∧
        Recovers codec call.secretImage (.ok bytes) := by
  by_cases own : directory ++ "/" ++ call.fileName = tempEncPath
  · obtain ⟨image, written, stored⟩ :=
      EncodeCall.hidden_of_run laws plain fits returned
    obtain ⟨saved, opens, decodes⟩ :=
      DecodeCall.run_decode laws (call.decodeBack bytes directory) later
        written stored
    have present :
        Function.update (Function.update later tempEncPath (some saved))
            (directory ++ "/" ++ call.storedName) (some call.secretImage)
            tempEncPath =
          some saved := by
      rw [← own, Function.update_of_ne (call.stored_path_ne directory).symm]
      exact Function.update_self _ _ _
    have ownPath :
        (call.decodeBack bytes directory).newDecodedImagePath =
          tempEncPath := own
    have readsItself :=
      DecodeCall.run_readBack_of_tempEncPath ownPath present opens written
    rw [decodes]
    constructor
    · intro recovers
      exact ⟨own, readsItself ▸ recovers⟩
    · rintro ⟨_, recovers⟩
      exact readsItself.symm ▸ recovers
  · have panics :=
      decodeBack_panics laws plain fits returned absent own
    rw [panics]
    constructor
    · rintro ⟨_, _, _, _, isPng⟩
      cases isPng
    · rintro ⟨isOwn, _⟩
      exact absurd isOwn own

end RoundTrip

/-! ## One image there and back -/

def nameBytes (name : String) : Bytes := name.toByteArray.data.toList

/-- A picture: the lengths of a name and of a file, the two, and the
carrier. -/
def pictureOf (name : String) (secret carrier : Bytes) : Bytes :=
  UInt8.ofNat (nameBytes name).length :: UInt8.ofNat secret.length ::
    (nameBytes name ++ (secret ++ carrier))

def hiddenIn : Bytes → List (String × Bytes)
  | nameLength :: secretLength :: rest =>
      ((String.fromUTF8? ⟨(rest.take nameLength.toNat).toArray⟩).map
        fun name =>
          (name,
            (rest.drop nameLength.toNat).take
              secretLength.toNat)).toList
  | _ => []

/-- An image is its bytes. -/
def pictureCodec : Codec Bytes where
  useMedia := Option.isSome
  hide path hidden carrier _ :=
    .returned
      (carrier.bind fun media =>
        hidden.map fun secret => pictureOf (baseName path) secret media)
  openImage _ stored := stored
  loadFromMemory encoded := some encoded
  save _ image := .saved image
  writePng image := .ok image
  unveil directory saved :=
    (saved.toList.flatMap hiddenIn).map fun file =>
      (directory ++ "/" ++ file.1, file.2)

theorem fromUTF8_nameBytes (name : String) :
    String.fromUTF8? ⟨(nameBytes name).toArray⟩ = some name := by
  unfold nameBytes String.fromUTF8?
  rw [Array.toArray_toList, dif_pos name.isValidUTF8]
  rfl

theorem hiddenIn_pictureOf
    {name : String} {secret : Bytes} (carrier : Bytes)
    (shortName : (nameBytes name).length < 256)
    (shortSecret : secret.length < 256) :
    hiddenIn (pictureOf name secret carrier) = [(name, secret)] := by
  unfold pictureOf hiddenIn
  dsimp only
  rw [UInt8.toNat_ofNat_of_lt' shortName,
    UInt8.toNat_ofNat_of_lt' shortSecret, List.take_left, List.drop_left,
    List.take_left, fromUTF8_nameBytes]
  rfl

def pictureLaws : SteganoLaws pictureCodec where
  hidden := hiddenIn
  Fits path secret carrier :=
    (nameBytes (baseName path)).length < 256 ∧ secret.length < 256 ∧
      carrier.isSome = true
  hide_stores := by
    rintro path secret (_ | media) ⟨shortName, shortSecret, present⟩
      outputPath
    · cases present
    · refine Or.inl ⟨_, rfl, ?_⟩
      intro image opened
      cases opened
      exact hiddenIn_pictureOf media shortName shortSecret
  unveil_writes := by
    intro path contents image opened directory
    cases opened
    simp [pictureCodec]
  png_loads := by
    intro image bytes written
    cases written
    rfl
  png_saves image := ⟨image, rfl, rfl⟩
  missing_file _ := rfl

/-- `encode` of `a.png` with a carrier of one byte. -/
def encodeOnce : EncodeCall where
  secretImage := [7]
  outputPath := "encoded_images/stego_a.png.png"
  fileName := "a.png"
  timestamp := 1700000000
  randomNum := Fin.last 999
  errors := EncodeErrors.none

def encodedOnce : Bytes := pictureOf "1700000000_999_a.png" [7] [9]

theorem run_encodeOnce :
    ((encodeOnce.encode pictureCodec).run carrierOnly).1 =
      .ok encodedOnce := by
  decide +kernel

theorem fits_encodeOnce :
    pictureLaws.Fits encodeOnce.tempSecretPath encodeOnce.secretImage
      (carrierOnly carrierPath) := by
  have shortName :
      (nameBytes (baseName encodeOnce.tempSecretPath)).length < 256 := by
    decide +kernel
  have carrier : carrierOnly carrierPath = some [9] :=
    Function.update_self _ _ _
  exact ⟨shortName, by decide, carrier.symm ▸ rfl⟩

theorem decode_recovers_iff_once :
    Recovers pictureCodec [7]
        (((encodeOnce.decodeBack encodedOnce "decoded_images").decode
          pictureCodec).run carrierOnly).1 ↔
      "decoded_images" ++ "/" ++ "a.png" = tempEncPath ∧
        Recovers pictureCodec [7] (.ok encodedOnce) :=
  decode_recovers_iff pictureLaws (by decide) fits_encodeOnce run_encodeOnce
    (by decide +kernel)

/-- `decode` panics on what `encode` has just returned. -/
theorem decode_panics_once :
    ((encodeOnce.encode pictureCodec).run carrierOnly).1 =
        .ok encodedOnce ∧
      pictureLaws.Fits encodeOnce.tempSecretPath encodeOnce.secretImage
        (carrierOnly carrierPath) ∧
      carrierOnly "decoded_images/a.png" = none ∧
      (((encodeOnce.decodeBack encodedOnce "decoded_images").decode
        pictureCodec).run carrierOnly).1 = .panicked ∧
      ¬ Recovers pictureCodec encodeOnce.secretImage .panicked := by
  have absent : carrierOnly "decoded_images/a.png" = none := by
    decide +kernel
  refine ⟨run_encodeOnce, fits_encodeOnce, absent, ?_, ?_⟩
  · exact
      decodeBack_panics pictureLaws (by decide) fits_encodeOnce
        run_encodeOnce absent (by decide)
  · rintro ⟨_, _, _, _, isPng⟩
    cases isPng

end CloudP2P.Provider
