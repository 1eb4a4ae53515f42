import CloudP2P.Provider.RoundTrip

/-!
# What `encode` leaves behind

The temporary file with the secret is deleted by the last step of `encode`
and by no other one.  Between its creation and its removal a call may return
an error or panic at six places, and then the file stays.
-/

universe u

namespace CloudP2P.Provider

open StoreProgram

namespace EncodeCall

variable {Image : Type u} (codec : Codec Image) (call : EncodeCall)
variable (files : FileSystem)

/-- The files when the secret has been written to its temporary file. -/
def secretStored : FileSystem :=
  Function.update files call.tempSecretPath (some call.secretImage)

/-- The files when `hide` has returned. -/
def outputStored (written : Option Bytes) : FileSystem :=
  match written with
  | none => call.secretStored files
  | some contents =>
      Function.update (call.secretStored files) call.outputPath
        (some contents)

/-- Every fallible step between the creation of the temporary file and its
removal succeeds. -/
structure ReachesRemoval : Prop where
  write : call.errors.write = none
  flush : call.errors.flush = none
  useMedia : codec.useMedia (files carrierPath) = true
  readBack :
    ∃ written image buffer,
      codec.hide call.tempSecretPath (some call.secretImage)
          (files carrierPath) call.outputPath = .returned written ∧
        codec.openImage call.outputPath
            (call.outputStored files written call.outputPath) =
          some image ∧
        codec.writePng image = .ok buffer

/-- A temporary file that the call has created is gone, and no file but the
output has changed. -/
structure LeavesNothing : Prop where
  temp :
    call.errors.create = none →
      ((call.encode codec).run files).2 call.tempSecretPath = none
  others :
    ∀ path, path ≠ call.outputPath →
      ((call.encode codec).run files).2 path = files path

/-! ## The ways out of a call -/

theorem outputStored_temp (written : Option Bytes) :
    ∃ contents,
      call.outputStored files written call.tempSecretPath =
        some contents := by
  cases written with
  | none =>
      exact ⟨_, Function.update_self _ _ _⟩
  | some contents =>
      by_cases same : call.tempSecretPath = call.outputPath
      · rw [outputStored, same]
        exact ⟨contents, Function.update_self _ _ _⟩
      · rw [outputStored, Function.update_of_ne same]
        exact ⟨_, Function.update_self _ _ _⟩

variable {codec call files}

theorem temp_readBack_iff
    (removes : call.errors.remove = none) {stored : FileSystem}
    {contents : Bytes}
    (present : stored call.tempSecretPath = some contents) :
    ((call.readBack codec).run stored).2 call.tempSecretPath = none ↔
      ∃ image buffer,
        codec.openImage call.outputPath (stored call.outputPath) =
            some image ∧
          codec.writePng image = .ok buffer := by
  dsimp only [readBack, run]
  cases opened :
      codec.openImage call.outputPath (stored call.outputPath) with
  | none =>
      simp [run, present]
  | some image =>
      cases written : codec.writePng image with
      | error message =>
          simp [run, present, written]
      | ok buffer =>
          simp [run, removeFile, removes, present, written]

/-- What is left of a call when its secret is stored. -/
theorem run_hideSecret :
    (call.hideSecret codec).run (call.secretStored files) =
      if codec.useMedia (files carrierPath) then
        match codec.hide call.tempSecretPath (some call.secretImage)
          (files carrierPath) call.outputPath with
        | .returned written =>
            (call.readBack codec).run (call.outputStored files written)
        | .panicked written =>
            (.panicked, call.outputStored files written)
      else
        (.panicked, call.secretStored files) := by
  have hidden :
      call.secretStored files call.tempSecretPath =
        some call.secretImage :=
    Function.update_self _ _ _
  have carrier :
      call.secretStored files carrierPath = files carrierPath :=
    Function.update_of_ne call.tempSecretPath_ne_carrierPath.symm _ _
  dsimp only [hideSecret, run]
  rw [hidden, carrier]
  cases codec.useMedia (files carrierPath) with
  | false =>
      rfl
  | true =>
      rw [if_pos rfl, if_pos rfl]
      cases codec.hide call.tempSecretPath (some call.secretImage)
        (files carrierPath) call.outputPath with
      | returned written | panicked written =>
          cases written with
          | none | some contents =>
              rfl

/-- After the chain of `stegano_core` the temporary file is only gone when
the output could be read back. -/
theorem temp_hideSecret_iff
    (removes : call.errors.remove = none) :
    ((call.hideSecret codec).run (call.secretStored files)).2
          call.tempSecretPath = none ↔
      codec.useMedia (files carrierPath) = true ∧
        ∃ written image buffer,
          codec.hide call.tempSecretPath (some call.secretImage)
              (files carrierPath) call.outputPath = .returned written ∧
            codec.openImage call.outputPath
                (call.outputStored files written call.outputPath) =
              some image ∧
            codec.writePng image = .ok buffer := by
  rw [run_hideSecret]
  cases codec.useMedia (files carrierPath) with
  | false =>
      simp [secretStored]
  | true =>
      rw [if_pos rfl]
      cases codec.hide call.tempSecretPath (some call.secretImage)
        (files carrierPath) call.outputPath with
      | returned written =>
          obtain ⟨contents, present⟩ :=
            outputStored_temp call files written
          simpa using temp_readBack_iff removes present
      | panicked written =>
          obtain ⟨contents, present⟩ :=
            outputStored_temp call files written
          simp [present]

/-- The temporary file that a call has created is gone if and only if the
call comes to its removal. -/
theorem temp_encode_iff
    (removes : call.errors.remove = none)
    (created : call.errors.create = none) :
    ((call.encode codec).run files).2 call.tempSecretPath = none ↔
      call.ReachesRemoval codec files := by
  unfold encode
  rw [created]
  cases write : call.errors.write with
  | some error =>
      obtain ⟨count, message⟩ := error
      simp only [run, Function.update_self]
      refine iff_of_false (Option.some_ne_none _) ?_
      intro reaches
      cases write.symm.trans reaches.write
  | none =>
      cases flush : call.errors.flush with
      | some message =>
          simp only [run, Function.update_self]
          refine iff_of_false (Option.some_ne_none _) ?_
          intro reaches
          cases flush.symm.trans reaches.flush
      | none =>
          refine (temp_hideSecret_iff removes).trans ?_
          constructor
          · rintro ⟨useMedia, readBack⟩
            exact ⟨write, flush, useMedia, readBack⟩
          · intro reaches
            exact ⟨reaches.useMedia, reaches.readBack⟩

/-- Whatever happens, no other file is touched. -/
theorem run_encode_of_ne
    {path : String} (notTemp : path ≠ call.tempSecretPath)
    (notOutput : path ≠ call.outputPath) :
    ((call.encode codec).run files).2 path = files path := by
  apply run_of_notMem_written
  intro written
  have either :=
    ((staysWithin_encode call files).mem _).1 path written
  simp only [writes, List.mem_cons, List.not_mem_nil, or_false] at either
  rcases either with isTemp | isOutput
  · exact notTemp isTemp
  · exact notOutput isOutput

/-- A call leaves nothing but its output if and only if it could not create
the temporary file, or comes to its removal and has not overwritten, and now
removed, a file that was there before. -/
theorem leavesNothing_iff
    (removes : call.errors.remove = none) :
    call.LeavesNothing codec files ↔
      call.errors.create ≠ none ∨
        (call.ReachesRemoval codec files ∧
          (call.tempSecretPath = call.outputPath ∨
            files call.tempSecretPath = none)) := by
  cases created : call.errors.create with
  | some message =>
      refine iff_of_true ?_ (Or.inl (Option.some_ne_none _))
      have ended :
          (call.encode codec).run files = (.err message, files) := by
        rw [encode, created]
        rfl
      constructor
      · intro none
        rw [created] at none
        cases none
      · intro path _
        rw [ended]
  | none =>
      have temp :
          ((call.encode codec).run files).2 call.tempSecretPath = none ↔
            call.ReachesRemoval codec files :=
        temp_encode_iff removes created
      constructor
      · intro leaves
        have gone := leaves.temp created
        refine Or.inr ⟨temp.mp gone, ?_⟩
        by_cases same : call.tempSecretPath = call.outputPath
        · exact Or.inl same
        · exact Or.inr ((leaves.others _ same).symm.trans gone)
      · rintro (notCreated | ⟨reaches, fresh⟩)
        · exact absurd rfl notCreated
        · have gone := temp.mpr reaches
          refine ⟨fun _ => gone, ?_⟩
          intro path notOutput
          by_cases isTemp : path = call.tempSecretPath
          · subst isTemp
            rcases fresh with same | absent
            · exact absurd same notOutput
            · rw [gone, absent]
          · exact run_encode_of_ne isTemp notOutput

end EncodeCall

/-! ## A missing carrier -/

theorem leavesNothing_iff_once :
    encodeOnce.LeavesNothing pictureCodec carrierOnly ↔
      encodeOnce.errors.create ≠ none ∨
        (encodeOnce.ReachesRemoval pictureCodec carrierOnly ∧
          (encodeOnce.tempSecretPath = encodeOnce.outputPath ∨
            carrierOnly encodeOnce.tempSecretPath = none)) :=
  EncodeCall.leavesNothing_iff rfl

/-- Without `carrier.png` the call panics, and the secret stays in `/tmp`. -/
theorem secret_left_without_carrier :
    ((encodeOnce.encode pictureCodec).run fun _ => none).1 = .panicked ∧
      ((encodeOnce.encode pictureCodec).run fun _ => none).2
          "/tmp/1700000000_999_a.png" = some encodeOnce.secretImage ∧
      ¬ ∀ (codec : Codec Bytes) (call : EncodeCall)
          (files : FileSystem),
        call.errors.remove = none → call.LeavesNothing codec files := by
  refine ⟨by decide +kernel, by decide +kernel, ?_⟩
  intro leavesNothing
  have gone :=
    (leavesNothing pictureCodec encodeOnce (fun _ => none) rfl).temp rfl
  exact absurd gone (by decide +kernel)

end CloudP2P.Provider
