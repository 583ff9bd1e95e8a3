import SymbolDatabase.Proofs.Container.Layout
import SymbolDatabase.Proofs.Digest.Crc32

namespace SymbolDatabase

/-!
# Corrupted containers

A container that is changed within four consecutive bytes is not unpacked to anything
else.  Payload and check value are protected together by the checksum, and the header,
which the checksum does not cover, by what the payload says once it is read: its length,
its counts and its flag for base types.  Only the flags that nothing reads may change.
A container that is cut short or continued does not pass the check.
-/

namespace Container

/-- Two sequences differ at most in those flags of the header that nothing reads. -/
structure SpareFlagsOnly
    (container altered : Bytes) :
    Prop where
  elsewhere :
    Bytes.EqualOutside 6 2 container altered
  baseTypes :
    Header.fieldAt container 6 2 % 2 = Header.fieldAt altered 6 2 % 2

instance
    (container altered : Bytes) :
    Decidable (SpareFlagsOnly container altered) :=
  decidable_of_iff
    (Bytes.EqualOutside 6 2 container altered ∧
      Header.fieldAt container 6 2 % 2 = Header.fieldAt altered 6 2 % 2)
    ⟨fun ⟨elsewhere, baseTypes⟩ => ⟨elsewhere, baseTypes⟩,
      fun spare => ⟨spare.elsewhere, spare.baseTypes⟩⟩

variable {bytes container altered payload : Bytes} {flags otherFlags : UInt16}
  {names symbols : UInt32}

theorem Header.hasBaseTypes_eq
    (header : Header) :
    header.hasBaseTypes = decide (header.flags.toNat % 2 = 1) := by
  rw [hasBaseTypes]
  congr 1
  rw [← UInt16.toNat_inj, UInt16.toNat_and, UInt16.toNat_one, Nat.and_one_is_mod]

theorem Header.Describes.hasBaseTypes
    {header : Header}
    {snapshot : Snapshot}
    (describes : header.Describes snapshot) :
    header.hasBaseTypes = snapshot.hasBaseTypes := by
  rw [Header.hasBaseTypes_eq, describes.flags]
  cases snapshot.hasBaseTypes <;> rfl

/-! ## Fields of a layout -/

theorem length_layout :
    (layout flags names symbols payload).length = 28 + payload.length := by
  rw [layout_eq_frame, length_frame, headerLength, trailerLength]
  omega

/-- The header that is read from a layout. -/
theorem decode_layout :
    Header.decode (layout flags names symbols payload) =
      { version := Snapshot.currentVersion
        flags := flags
        names := names
        symbols := symbols
        payloadLength := UInt64.ofNat payload.length } := by
  rw [layout_eq_frame, decode_frame]

theorem flagsField_layout :
    Header.fieldAt (layout flags names symbols payload) 6 2 = flags.toNat := by
  have read :
      (UInt16.ofNat
        (Header.fieldAt (layout flags names symbols payload) 6 2)).toNat = flags.toNat :=
    congrArg (UInt16.toNat ∘ Header.flags) decode_layout
  rwa [UInt16.toNat_ofNat_of_lt' (Header.fieldAt_lt _ 6 2)] at read

theorem toldLength_layout :
    toldLength (layout flags names symbols payload) =
      payload.length % UInt64.size := by
  rw [← Header.payloadLength_decode, decode_layout]
  exact UInt64.toNat_ofNat'

/-- Behind its header, a layout is the payload with its check value. -/
theorem drop_layout :
    (layout flags names symbols payload).drop 24 = payload ++ trailer payload := by
  rw [layout_eq_frame, List.append_assoc]
  exact List.drop_left' (Header.length_encode _)

/-- The check value that is written behind a payload is genuine. -/
theorem isChecked_trailer
    (payload : Bytes) :
    Crc32.IsChecked payload (trailer payload) := by
  refine ⟨length_trailer payload, ?_⟩
  have fits : (Crc32.checksum payload).toNat < LittleEndian.capacity trailerLength :=
    (Crc32.checksum payload).toNat_lt
  rw [trailer, LittleEndian.decode_encode, Nat.mod_eq_of_lt fits, UInt32.ofNat_toNat]

/-! ## Changed flags -/

/-- The flags are the two bytes behind magic and version, and nothing depends on them. -/
theorem exists_layout_eq
    (names symbols : UInt32)
    (payload : Bytes) :
    ∃ front behind,
      front.length = 6 ∧
        ∀ flags,
          layout flags names symbols payload =
            front ++ (LittleEndian.encode 2 flags.toNat ++ behind) := by
  refine
    ⟨magic ++ LittleEndian.encode 2 1,
      LittleEndian.encode 4 names.toNat ++
        (LittleEndian.encode 4 symbols.toNat ++
          (LittleEndian.encode 8 payload.length ++ (payload ++ trailer payload))),
      rfl, ?_⟩
  intro flags
  simp only [layout, List.append_assoc]
  rfl

/-- Layouts that differ in their flags are equal everywhere else. -/
theorem equalOutside_flags
    (flags otherFlags : UInt16)
    (names symbols : UInt32)
    (payload : Bytes) :
    Bytes.EqualOutside 6 2 (layout flags names symbols payload)
      (layout otherFlags names symbols payload) := by
  obtain ⟨front, behind, isFront, shape⟩ := exists_layout_eq names symbols payload
  rw [shape, shape, ← isFront]
  exact .of_contents (LittleEndian.length_encode 2 _) (LittleEndian.length_encode 2 _) _

/-- A sequence that differs from a layout in the flags is a layout with other flags. -/
theorem eq_layout_of_equalOutside
    (equal : Bytes.EqualOutside 6 2 (layout flags names symbols payload) altered) :
    ∃ otherFlags, altered = layout otherFlags names symbols payload := by
  obtain ⟨front, behind, isFront, shape⟩ := exists_layout_eq names symbols payload
  have long : 28 ≤ altered.length := by
    rw [← equal.1, length_layout]
    omega
  have sameFront : altered.take 6 = front := by
    rw [← equal.take_eq, shape, ← isFront, List.take_left]
  have sameBehind : altered.drop 8 = behind := by
    rw [← equal.drop_eq, shape, ← List.append_assoc]
    refine List.drop_left' ?_
    rw [List.length_append, isFront, LittleEndian.length_encode]
  have window :
      (altered.drop 6).take 2 =
        LittleEndian.encode 2 (UInt16.ofNat (Header.fieldAt altered 6 2)).toNat := by
    rw [UInt16.toNat_ofNat_of_lt' (Header.fieldAt_lt _ 6 2),
      Header.encode_fieldAt (by omega)]
  have behindWindow : altered.drop 8 = (altered.drop 6).drop 2 := by
    rw [List.drop_drop]
  refine ⟨UInt16.ofNat (Header.fieldAt altered 6 2), ?_⟩
  rw [shape, ← window, ← sameFront, ← sameBehind, behindWindow,
    List.take_append_drop, List.take_append_drop]

/-- Of the flags, unpacking looks only at the one for base types. -/
theorem unpack_layout_congr
    (sameBaseTypes : flags.toNat % 2 = otherFlags.toNat % 2) :
    unpack (layout flags names symbols payload) =
      unpack (layout otherFlags names symbols payload) := by
  unfold unpack
  rw [check_layout, check_layout]
  by_cases fits : payload.length < UInt64.size
  · simp only [fits, ↓reduceIte, Header.hasBaseTypes_eq, sameBaseTypes]
  · simp only [fits, ↓reduceIte]

/-- Changes to flags that nothing reads do not change what is unpacked. -/
theorem unpack_of_spareFlagsOnly
    (spare : SpareFlagsOnly (layout flags names symbols payload) altered) :
    unpack altered = unpack (layout flags names symbols payload) := by
  obtain ⟨otherFlags, rfl⟩ := eq_layout_of_equalOutside spare.elsewhere
  have sameBaseTypes := spare.baseTypes
  rw [flagsField_layout, flagsField_layout] at sameBaseTypes
  exact (unpack_layout_congr sameBaseTypes).symm

/-! ## Changed windows -/

/-- Layouts that are equal outside of four consecutive bytes have the same payload. -/
theorem payload_eq_of_equalOutside
    {start width : Nat}
    {otherNames otherSymbols : UInt32}
    {otherPayload : Bytes}
    (narrow : width ≤ 4)
    (equal :
      Bytes.EqualOutside start width (layout flags names symbols payload)
        (layout otherFlags otherNames otherSymbols otherPayload)) :
    payload = otherPayload := by
  have sameLength : payload.length = otherPayload.length := by
    have lengths := equal.1
    rw [length_layout, length_layout] at lengths
    omega
  have behind := equal.drop 24
  rw [drop_layout, drop_layout] at behind
  exact List.append_inj_left
    (Crc32.eq_of_isChecked (isChecked_trailer _) (isChecked_trailer _) narrow behind)
    sameLength

/-- What is unpacked is the payload of a layout, and the header agrees with it. -/
theorem unpack_eq_ok
    {snapshot : Snapshot}
    (unpacked : unpack bytes = .ok snapshot) :
    ∃ (header : Header) (payload : Bytes),
      bytes = layout header.flags header.names header.symbols payload ∧
        Snapshot.ofDocument payload = .ok snapshot ∧
        snapshot.names.length = header.names.toNat ∧
        snapshot.records.length = header.symbols.toNat ∧
        snapshot.hasBaseTypes = header.hasBaseTypes := by
  unfold unpack at unpacked
  split at unpacked
  · cases unpacked
  next header payload passed =>
    split at unpacked
    · cases unpacked
    next found holds =>
      split at unpacked
      next agrees =>
        cases unpacked
        exact ⟨header, payload, (check_eq_ok_iff.mp passed).1, holds, agrees⟩
      next =>
        cases unpacked

/--
A container that was changed within four consecutive bytes, and is unpacked nevertheless,
differs at most in flags that nothing reads.
-/
theorem spareFlagsOnly_of_unpack
    {snapshot found : Snapshot}
    {start width : Nat}
    (packed : pack snapshot = .ok container)
    (narrow : width ≤ 4)
    (equal : Bytes.EqualOutside start width container altered)
    (unpacked : unpack altered = .ok found) :
    SpareFlagsOnly container altered := by
  obtain ⟨header, describes, rfl, -⟩ := layout_of_pack packed
  obtain ⟨other, payload, rfl, holds, nameCount, symbolCount, baseTypes⟩ :=
    unpack_eq_ok unpacked
  obtain rfl := payload_eq_of_equalOutside narrow equal
  -- The payload is still the document of the snapshot, which fixes all else that is read.
  obtain rfl : snapshot = found := by
    rw [snapshot.ofDocument_compactDocument] at holds
    exact Except.ok.inj holds
  have sameNames : header.names = other.names :=
    UInt32.toNat_inj.mp (describes.names.trans nameCount)
  have sameSymbols : header.symbols = other.symbols :=
    UInt32.toNat_inj.mp (describes.symbols.trans symbolCount)
  have sameBaseTypes : header.flags.toNat % 2 = other.flags.toNat % 2 := by
    have sameFlag := describes.hasBaseTypes.trans baseTypes
    rw [Header.hasBaseTypes_eq, Header.hasBaseTypes_eq, decide_eq_decide] at sameFlag
    omega
  rw [sameNames, sameSymbols]
  refine ⟨equalOutside_flags _ _ _ _ _, ?_⟩
  rw [flagsField_layout, flagsField_layout]
  exact sameBaseTypes

/-! ## Other lengths -/

/-- What passes the check is as long as it tells. -/
theorem length_of_check
    {header : Header}
    (passed : check bytes = .ok (header, payload)) :
    bytes.length = 28 + toldLength bytes := by
  obtain ⟨rfl, -, told⟩ := check_eq_ok_iff.mp passed
  have fits : payload.length < UInt64.size := told ▸ header.payloadLength.toNat_lt
  rw [length_layout, toldLength_layout, Nat.mod_eq_of_lt fits]

/-- What follows the header does not change the length that it tells. -/
theorem toldLength_append
    (long : 24 ≤ bytes.length)
    (behind : Bytes) :
    toldLength (bytes ++ behind) = toldLength bytes := by
  rw [toldLength, toldLength, Header.fieldAt, Header.fieldAt,
    List.drop_append_of_le_length (by omega), List.take_append_of_le_length]
  rw [List.length_drop]
  omega

/-- A container that is cut short does not pass the check. -/
theorem check_take_ne_ok
    {snapshot : Snapshot}
    (packed : pack snapshot = .ok container)
    (fits : container.length < UInt64.size)
    {count : Nat}
    (short : count < container.length)
    (passed : Header × Bytes) :
    check (container.take count) ≠ .ok passed := by
  intro accepted
  have lengths := length_of_check accepted
  -- What passes is long enough to have kept the whole header, and the length told there.
  have sameTold :=
    toldLength_append (show 24 ≤ (container.take count).length by omega)
      (container.drop count)
  rw [List.take_append_drop] at sameTold
  obtain ⟨header, -, rfl, -⟩ := layout_of_pack packed
  rw [length_layout] at fits short
  rw [toldLength_layout, Nat.mod_eq_of_lt (by omega)] at sameTold
  rw [List.length_take, length_layout] at lengths
  omega

/-- A container that is continued does not pass the check. -/
theorem check_append_ne_ok
    {snapshot : Snapshot}
    (packed : pack snapshot = .ok container)
    {extra : Bytes}
    (continued : extra ≠ [])
    (passed : Header × Bytes) :
    check (container ++ extra) ≠ .ok passed := by
  obtain ⟨header, -, rfl, -⟩ := layout_of_pack packed
  intro accepted
  have lengths := length_of_check accepted
  rw [toldLength_append (by rw [length_layout]; omega), toldLength_layout,
    List.length_append, length_layout] at lengths
  have notLonger := Nat.mod_le snapshot.compactDocument.length UInt64.size
  have notEmpty := List.length_pos_of_ne_nil continued
  omega

end Container

/-- A result that is not a success is an error. -/
theorem exists_error_of_ne_ok
    {α : Type}
    {result : Except Error α}
    (fails : ∀ value, result ≠ .ok value) :
    ∃ error, result = .error error := by
  cases result with
  | error error =>
      exact ⟨error, rfl⟩
  | ok value =>
      exact absurd rfl (fails value)

namespace Database

open Container

/--
A saved container that is changed within four consecutive bytes is refused, unless only
flags changed that nothing reads, and then it is loaded as before.  A saved container
whose header can tell its length passes the check, but not when it is cut short, and no
saved container passes when it is continued.
-/
theorem ofContainer_of_corrupted
    {database : Database}
    {container : Bytes}
    (packed : database.toContainer = .ok container) :
    (∀ start width altered,
        width ≤ 4 →
          Bytes.EqualOutside start width container altered →
            (SpareFlagsOnly container altered →
                Database.ofContainer altered = Database.ofContainer container) ∧
              (¬ SpareFlagsOnly container altered →
                ∃ error, Database.ofContainer altered = .error error)) ∧
      (container.length < UInt64.size →
        (∃ accepted, check container = .ok accepted) ∧
          ∀ count,
            count < container.length →
              ∃ error, check (container.take count) = .error error) ∧
      ∀ extra, extra ≠ [] → ∃ error, check (container ++ extra) = .error error := by
  refine ⟨?changed, ?cutShort, ?continued⟩
  case changed =>
    intro start width altered narrow equal
    constructor
    · intro spare
      obtain ⟨header, -, rfl, -⟩ := layout_of_pack packed
      rw [Database.ofContainer, Database.ofContainer, unpack_of_spareFlagsOnly spare]
    · intro notSpare
      obtain ⟨error, refused⟩ : ∃ error, unpack altered = .error error :=
        exists_error_of_ne_ok fun _ unpacked =>
          notSpare (spareFlagsOnly_of_unpack packed narrow equal unpacked)
      exact ⟨error, by rw [Database.ofContainer, refused]⟩
  case cutShort =>
    intro fits
    obtain ⟨header, -, -, passes⟩ := layout_of_pack packed
    refine ⟨⟨_, passes fits⟩, ?_⟩
    intro count short
    exact exists_error_of_ne_ok (check_take_ne_ok packed fits short)
  case continued =>
    intro extra continued
    exact exists_error_of_ne_ok (check_append_ne_ok packed continued)

/--
The container of the empty database is refused with four bytes across payload and check
value changed, cut short or continued, and loaded as before with the last flag set.
-/
theorem ofContainer_of_corrupted_emptyDatabase :
    ∃ container,
      Database.empty.toContainer = .ok container ∧
        (∃ error,
          Database.ofContainer
              (container.take 81 ++ ([0x20, 0x20, 0x20, 0x20] ++ container.drop 85)) =
            .error error) ∧
        Database.ofContainer (container.set 7 0x80) = Database.ofContainer container ∧
        (∃ error, check (container.take 86) = .error error) ∧
        ∃ error, check (container ++ [0x00]) = .error error := by
  obtain ⟨container, packed, length, border, notSpare, lastFlag, spare⟩ :
      ∃ container,
        Database.empty.toContainer = .ok container ∧
          container.length = 87 ∧
          Bytes.EqualOutside 81 4 container
            (container.take 81 ++ ([0x20, 0x20, 0x20, 0x20] ++ container.drop 85)) ∧
          ¬ SpareFlagsOnly container
            (container.take 81 ++ ([0x20, 0x20, 0x20, 0x20] ++ container.drop 85)) ∧
          Bytes.EqualOutside 7 1 container (container.set 7 0x80) ∧
          SpareFlagsOnly container (container.set 7 0x80) :=
    ⟨_, rfl, by decide +kernel, by decide +kernel, by decide +kernel, by decide +kernel,
      by decide +kernel⟩
  obtain ⟨changed, cutShort, continued⟩ := ofContainer_of_corrupted packed
  have fits : container.length < UInt64.size := by
    rw [length]
    decide
  exact ⟨container, packed, (changed 81 4 _ (by decide) border).2 notSpare,
    (changed 7 1 _ (by decide) lastFlag).1 spare, (cutShort fits).2 86 (by omega),
    continued _ (by decide)⟩

end Database

end SymbolDatabase
