import Mathlib.Data.UInt
import Mathlib.Logic.Equiv.Fin.Basic

/-!
# Byte formats

A byte format writes a value as a list of bytes and reads it back from the
front of a list.  The two laws are fields: reading undoes writing whatever
stands behind, and only what `write` produces is read.  A format is therefore
injective and prefix-free, and it accepts no second spelling of a value.

Formats are built from bytes by pairing, by transport along an equivalence,
by restriction to a decidable subtype, by a choice whose tag comes first, and
by a counted repetition.
-/

universe u v

/-- A writer and a reader that undo each other. -/
structure ByteFormat (Value : Type u) where
  write : Value → List UInt8
  read : List UInt8 → Option (Value × List UInt8)
  read_write :
    ∀ value rest, read (write value ++ rest) = some (value, rest)
  write_of_read :
    ∀ {bytes value rest}, read bytes = some (value, rest) →
      write value ++ rest = bytes

namespace ByteFormat

variable {Value : Type u} {Other : Type v}

/-- The bytes determine the value and where it ends. -/
theorem write_append_inj
    (format : ByteFormat Value) {left right : Value}
    {leftRest rightRest : List UInt8}
    (same :
      format.write left ++ leftRest = format.write right ++ rightRest) :
    left = right ∧ leftRest = rightRest := by
  have readLeft := format.read_write left leftRest
  rw [same, format.read_write right rightRest] at readLeft
  injection readLeft with pairs
  injection pairs with values rests
  exact ⟨values.symm, rests.symm⟩

/-- A successful read is a written value with the rest behind it. -/
theorem read_eq_some_iff
    (format : ByteFormat Value) {bytes : List UInt8} {value : Value}
    {rest : List UInt8} :
    format.read bytes = some (value, rest) ↔
      bytes = format.write value ++ rest := by
  constructor
  · intro accepted
    exact (format.write_of_read accepted).symm
  · rintro rfl
    exact format.read_write value rest

/-! ## Building formats -/

/-- No byte at all. -/
def empty : ByteFormat Unit where
  write _ := []
  read bytes := some ((), bytes)
  read_write := by
    intro value rest
    rfl
  write_of_read := by
    intro bytes value rest accepted
    cases accepted
    rfl

/-- One byte. -/
def byte : ByteFormat UInt8 where
  write value := [value]
  read
    | [] => none
    | first :: rest => some (first, rest)
  read_write := by
    intro value rest
    rfl
  write_of_read := by
    intro bytes value rest accepted
    cases bytes with
    | nil =>
        cases accepted
    | cons first others =>
        cases accepted
        rfl

/-- The same bytes for an equivalent type. -/
def map (format : ByteFormat Value) (change : Value ≃ Other) :
    ByteFormat Other where
  write value := format.write (change.symm value)
  read bytes :=
    (format.read bytes).map fun found => (change found.1, found.2)
  read_write := by
    intro value rest
    rw [format.read_write]
    simp only [Option.map_some, Equiv.apply_symm_apply]
  write_of_read := by
    intro bytes value rest accepted
    obtain ⟨found, readFound, same⟩ := Option.map_eq_some_iff.mp accepted
    injection same with sameValue sameRest
    rw [← sameValue, ← sameRest, Equiv.symm_apply_apply]
    exact format.write_of_read readFound

/-- One value and then another, whose format may depend on the first. -/
def sigma {Payload : Value → Type v} (format : ByteFormat Value)
    (payload : ∀ value, ByteFormat (Payload value)) :
    ByteFormat (Sigma Payload) where
  write pair := format.write pair.1 ++ (payload pair.1).write pair.2
  read bytes :=
    (format.read bytes).bind fun found =>
      ((payload found.1).read found.2).map fun second =>
        (⟨found.1, second.1⟩, second.2)
  read_write := by
    rintro ⟨first, second⟩ rest
    rw [List.append_assoc, format.read_write]
    simp only [Option.bind_some, (payload first).read_write,
      Option.map_some]
  write_of_read := by
    rintro bytes value rest accepted
    obtain ⟨found, readFirst, readRest⟩ :=
      Option.bind_eq_some_iff.mp accepted
    obtain ⟨second, readSecond, same⟩ := Option.map_eq_some_iff.mp readRest
    injection same with sameValue sameRest
    rw [← sameValue, ← sameRest, List.append_assoc,
      (payload found.1).write_of_read readSecond]
    exact format.write_of_read readFirst

/-- One value and then another. -/
def pair (first : ByteFormat Value) (second : ByteFormat Other) :
    ByteFormat (Value × Other) :=
  (first.sigma fun _ => second).map (Equiv.sigmaEquivProd Value Other)

@[simp]
theorem pair_write
    (first : ByteFormat Value) (second : ByteFormat Other)
    (value : Value × Other) :
    (first.pair second).write value =
      first.write value.1 ++ second.write value.2 :=
  rfl

/-- Only the values that `valid` admits; the reader refuses the others. -/
def restrict (format : ByteFormat Value) (valid : Value → Prop)
    [DecidablePred valid] : ByteFormat {value : Value // valid value} where
  write value := format.write value.1
  read bytes :=
    (format.read bytes).bind fun found =>
      if admitted : valid found.1 then
        some (⟨found.1, admitted⟩, found.2)
      else
        none
  read_write := by
    rintro ⟨value, admitted⟩ rest
    rw [format.read_write, Option.bind_some, dif_pos admitted]
  write_of_read := by
    intro bytes value rest accepted
    obtain ⟨found, readFound, checked⟩ :=
      Option.bind_eq_some_iff.mp accepted
    by_cases admitted : valid found.1
    · rw [dif_pos admitted] at checked
      injection checked with same
      injection same with sameValue sameRest
      rw [← sameValue, ← sameRest]
      exact format.write_of_read readFound
    · rw [dif_neg admitted] at checked
      cases checked

/-! ## Lengths -/

/-- Every value takes `width` bytes. -/
def Sized (format : ByteFormat Value) (width : Nat) : Prop :=
  ∀ value, (format.write value).length = width

/-- Any `width` bytes are a value. -/
def Total (format : ByteFormat Value) (width : Nat) : Prop :=
  ∀ bytes, width ≤ bytes.length → (format.read bytes).isSome

theorem sized_byte : byte.Sized 1 := fun _ => rfl

theorem total_byte : byte.Total 1 := by
  intro bytes enough
  cases bytes with
  | nil =>
      exact absurd enough (by decide)
  | cons first rest =>
      rfl

theorem Sized.map {format : ByteFormat Value} {width : Nat}
    (sized : format.Sized width) (change : Value ≃ Other) :
    (format.map change).Sized width :=
  fun value => sized (change.symm value)

theorem Total.map {format : ByteFormat Value} {width : Nat}
    (total : format.Total width) (change : Value ≃ Other) :
    (format.map change).Total width := by
  intro bytes enough
  exact (Option.isSome_map).trans (total bytes enough)

theorem Sized.restrict {format : ByteFormat Value} {width : Nat}
    (sized : format.Sized width) (valid : Value → Prop)
    [DecidablePred valid] : (format.restrict valid).Sized width :=
  fun value => sized value.1

theorem Sized.pair
    {first : ByteFormat Value} {second : ByteFormat Other}
    {width otherWidth : Nat}
    (sized : first.Sized width) (otherSized : second.Sized otherWidth) :
    (first.pair second).Sized (width + otherWidth) := by
  intro value
  rw [pair_write, List.length_append, sized, otherSized]

theorem Total.pair
    {first : ByteFormat Value} {other : ByteFormat Other}
    {width otherWidth : Nat} (total : first.Total width)
    (sized : first.Sized width) (otherTotal : other.Total otherWidth) :
    (first.pair other).Total (width + otherWidth) := by
  intro bytes enough
  have firstWidth : width ≤ bytes.length := by omega
  obtain ⟨⟨value, rest⟩, readFirst⟩ :=
    Option.isSome_iff_exists.mp (total bytes firstWidth)
  have restWidth : otherWidth ≤ rest.length := by
    have lengths := congrArg List.length (first.write_of_read readFirst)
    rw [List.length_append, sized] at lengths
    omega
  obtain ⟨second, readSecond⟩ :=
    Option.isSome_iff_exists.mp (otherTotal rest restWidth)
  have whole :
      (first.pair other).read bytes =
        some ((value, second.1), second.2) := by
    rw [read_eq_some_iff, pair_write, List.append_assoc,
      other.write_of_read readSecond, first.write_of_read readFirst]
  rw [whole]
  rfl

/-- A fixed format reads exactly what is long enough. -/
theorem Total.read_isSome_iff {format : ByteFormat Value} {width : Nat}
    (total : format.Total width) (sized : format.Sized width)
    {bytes : List UInt8} :
    (format.read bytes).isSome ↔ width ≤ bytes.length := by
  constructor
  · intro accepted
    obtain ⟨⟨value, rest⟩, found⟩ := Option.isSome_iff_exists.mp accepted
    have lengths := congrArg List.length (format.write_of_read found)
    rw [List.length_append, sized] at lengths
    omega
  · exact total bytes

/-! ## Numbers

The digit that comes first weighs least. -/

/-- The byte of one digit. -/
def digit : ByteFormat (Fin 256) :=
  byte.map ⟨UInt8.toFin, UInt8.ofFin, fun _ => rfl, fun _ => rfl⟩

/-- The last digit and those before it. -/
def digits (width : Nat) :
    Fin 256 × Fin (256 ^ width) ≃ Fin (256 ^ (width + 1)) :=
  (Equiv.prodComm _ _).trans finProdFinEquiv

/-- A number of `width` bytes. -/
def littleEndian : (width : Nat) → ByteFormat (Fin (256 ^ width))
  | 0 => empty.map finOneEquiv.symm
  | width + 1 => (digit.pair (littleEndian width)).map (digits width)

/-- A `u32`. -/
def word32 : ByteFormat UInt32 :=
  (littleEndian 4).map
    ⟨fun number => UInt32.ofFin (number.cast (by decide)),
      fun word => word.toFin.cast (by decide),
      fun _ => rfl, fun _ => rfl⟩

/-- A `u64`. -/
def word64 : ByteFormat UInt64 :=
  (littleEndian 8).map
    ⟨fun number => UInt64.ofFin (number.cast (by decide)),
      fun word => word.toFin.cast (by decide),
      fun _ => rfl, fun _ => rfl⟩

/-- The number of a variant, in a `u32`. -/
def variant (count : Nat) (bound : count ≤ 2 ^ 32) :
    ByteFormat (Fin count) :=
  (word32.restrict fun word => word.toNat < count).map
    { toFun := fun word => ⟨word.1.toNat, word.2⟩
      invFun := fun index =>
        ⟨UInt32.ofNat index.1, by
          rw [UInt32.toNat_ofNat_of_lt' (index.2.trans_le bound)]
          exact index.2⟩
      left_inv := by
        rintro ⟨word, valid⟩
        exact Subtype.ext UInt32.ofNat_toNat
      right_inv := by
        rintro ⟨index, valid⟩
        exact Fin.ext (UInt32.toNat_ofNat_of_lt' (valid.trans_le bound)) }

example : word32.write 0x01020304 = [4, 3, 2, 1] := by decide

theorem sized_littleEndian (width : Nat) :
    (littleEndian width).Sized width := by
  induction width with
  | zero =>
      intro number
      rfl
  | succ width inductionHypothesis =>
      have sizedDigit : digit.Sized 1 := sized_byte.map _
      have whole := (sizedDigit.pair inductionHypothesis).map (digits width)
      rw [Nat.add_comm 1] at whole
      exact whole

theorem total_littleEndian (width : Nat) :
    (littleEndian width).Total width := by
  induction width with
  | zero =>
      intro bytes _
      rfl
  | succ width inductionHypothesis =>
      have sizedDigit : digit.Sized 1 := sized_byte.map _
      have totalDigit : digit.Total 1 := total_byte.map _
      have whole :=
        (totalDigit.pair sizedDigit inductionHypothesis).map (digits width)
      rw [Nat.add_comm 1] at whole
      exact whole

theorem sized_word32 : word32.Sized 4 := (sized_littleEndian 4).map _

theorem total_word32 : word32.Total 4 := (total_littleEndian 4).map _

theorem sized_variant (count : Nat) (bound : count ≤ 2 ^ 32) :
    (variant count bound).Sized 4 :=
  (sized_word32.restrict _).map _

theorem sized_word64 : word64.Sized 8 := (sized_littleEndian 8).map _

/-! ## Lists -/

/-- A list whose length the reader knows. -/
def repeated (format : ByteFormat Value) :
    (count : Nat) → ByteFormat {items : List Value // items.length = count}
  | 0 =>
      empty.map
        ⟨fun _ => ⟨[], rfl⟩, fun _ => (), fun _ => rfl,
          fun items => Subtype.ext (List.length_eq_zero_iff.mp items.2).symm⟩
  | count + 1 =>
      (format.pair (repeated format count)).map
        ⟨fun parts => ⟨parts.1 :: parts.2.1, congrArg (· + 1) parts.2.2⟩,
          fun items =>
            (items.1.head (List.ne_nil_of_length_eq_add_one items.2),
              ⟨items.1.tail, by rw [List.length_tail, items.2]; rfl⟩),
          fun _ => rfl,
          fun items => Subtype.ext (List.cons_head_tail _)⟩

/-- A list that a `u64` can count. -/
abbrev Counted (Value : Type u) :=
  {items : List Value // items.length < 2 ^ 64}

/-- The length as a `u64`, then the items. -/
def counted (format : ByteFormat Value) : ByteFormat (Counted Value) :=
  (word64.sigma fun count => format.repeated count.toNat).map
    { toFun := fun found =>
        ⟨found.2.1, by rw [found.2.2]; exact found.1.toNat_lt⟩
      invFun := fun items =>
        ⟨UInt64.ofNat items.1.length,
          ⟨items.1, (UInt64.toNat_ofNat_of_lt' items.2).symm⟩⟩
      left_inv := by
        rintro ⟨count, items, counts⟩
        obtain rfl : UInt64.ofNat items.length = count := by
          rw [counts, UInt64.ofNat_toNat]
        rfl
      right_inv := fun _ => rfl }

theorem Sized.repeated {format : ByteFormat Value} {width : Nat}
    (sized : format.Sized width) (count : Nat) :
    (format.repeated count).Sized (count * width) := by
  induction count with
  | zero =>
      intro items
      rw [Nat.zero_mul]
      rfl
  | succ count inductionHypothesis =>
      intro items
      have whole := sized.pair inductionHypothesis
      rw [Nat.add_comm, ← Nat.succ_mul] at whole
      exact whole _

theorem Sized.length_counted {format : ByteFormat Value} {width : Nat}
    (sized : format.Sized width) (items : Counted Value) :
    (format.counted.write items).length =
      8 + items.1.length * width := by
  have counts : (UInt64.ofNat items.1.length).toNat = items.1.length :=
    UInt64.toNat_ofNat_of_lt' items.2
  have written :
      (format.counted.write items).length =
        (word64.write (UInt64.ofNat items.1.length)).length +
          ((format.repeated (UInt64.ofNat items.1.length).toNat).write
            ⟨items.1, counts.symm⟩).length :=
    List.length_append
  rw [written, sized_word64, sized.repeated, counts]

end ByteFormat
