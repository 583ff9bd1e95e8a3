import SymbolDatabase.Proofs.Container.Memory

namespace SymbolDatabase

/-!
# What a container looks like

The check accepts exactly the sequences that are laid out as a container, and what it
refuses it refuses for the first of three reasons: the front is not that of a container,
the told length is not that of the payload, or the stored check value is not that of the
payload.
-/

namespace Container

/-- The container of a payload, field by field. -/
def layout
    (flags : UInt16)
    (names symbols : UInt32)
    (payload : Bytes) :
    Bytes :=
  [0x52, 0x46, 0x44, 0x42] ++
    LittleEndian.encode 2 1 ++
    LittleEndian.encode 2 flags.toNat ++
    LittleEndian.encode 4 names.toNat ++
    LittleEndian.encode 4 symbols.toNat ++
    LittleEndian.encode 8 payload.length ++
    payload ++
    LittleEndian.encode 4 (Crc32.checksum payload).toNat

/-- A sequence is long enough for a container, and starts with its magic and version. -/
structure HasFront
    (bytes : Bytes) :
    Prop where
  long :
    28 ≤ bytes.length
  magic :
    bytes.take 4 = [0x52, 0x46, 0x44, 0x42]
  version :
    Header.fieldAt bytes 4 2 = 1

/-- The length that a container tells of its payload. -/
def toldLength
    (bytes : Bytes) :
    Nat :=
  Header.fieldAt bytes 16 8

/-- What lies between the header and the check value. -/
def payloadOf
    (bytes : Bytes) :
    Bytes :=
  (bytes.drop 24).take (bytes.length - 28)

/-- A header tells the flag and the counts of a snapshot. -/
structure Header.Describes
    (header : Header)
    (snapshot : Snapshot) :
    Prop where
  flags :
    header.flags = if snapshot.hasBaseTypes then 1 else 0
  names :
    header.names.toNat = snapshot.names.length
  symbols :
    header.symbols.toNat = snapshot.records.length

/-- The check value at the end. -/
def storedChecksum
    (bytes : Bytes) :
    UInt32 :=
  UInt32.ofNat (Header.fieldAt bytes (bytes.length - 4) 4)

variable {bytes payload : Bytes} {header : Header}

namespace Header

/-- A field holds a number below its capacity. -/
theorem fieldAt_lt
    (bytes : Bytes)
    (offset width : Nat) :
    fieldAt bytes offset width < LittleEndian.capacity width :=
  Nat.lt_of_lt_of_le (LittleEndian.decode_lt _)
    (LittleEndian.capacity_le_capacity (List.length_take_le _ _))

/-- Writing the number in a field gives the bytes of the field. -/
theorem encode_fieldAt
    {offset width : Nat}
    (inside : offset + width ≤ bytes.length) :
    LittleEndian.encode width (fieldAt bytes offset width) =
      (bytes.drop offset).take width := by
  have wide : ((bytes.drop offset).take width).length = width := by
    rw [List.length_take, List.length_drop]
    omega
  have written := LittleEndian.encode_decode ((bytes.drop offset).take width)
  rwa [wide] at written

theorem version_decode_eq_iff :
    (decode bytes).version = Snapshot.currentVersion ↔ fieldAt bytes 4 2 = 1 := by
  have fits : fieldAt bytes 4 2 < UInt16.size :=
    fieldAt_lt bytes 4 2
  rw [← UInt16.toNat_inj]
  show (UInt16.ofNat (fieldAt bytes 4 2)).toNat = 1 ↔ _
  rw [UInt16.toNat_ofNat_of_lt' fits]

theorem payloadLength_decode :
    (decode bytes).payloadLength.toNat = toldLength bytes :=
  UInt64.toNat_ofNat_of_lt' (fieldAt_lt bytes 16 8)

/-- Writing the header that was read gives the front of a sequence with the magic. -/
theorem encode_decode
    (front : HasFront bytes) :
    (decode bytes).encode = bytes.take 24 := by
  have long := front.long
  have versionField : (decode bytes).version.toNat = fieldAt bytes 4 2 :=
    UInt16.toNat_ofNat_of_lt' (fieldAt_lt bytes 4 2)
  have flagsField : (decode bytes).flags.toNat = fieldAt bytes 6 2 :=
    UInt16.toNat_ofNat_of_lt' (fieldAt_lt bytes 6 2)
  have namesField : (decode bytes).names.toNat = fieldAt bytes 8 4 :=
    UInt32.toNat_ofNat_of_lt' (fieldAt_lt bytes 8 4)
  have symbolsField : (decode bytes).symbols.toNat = fieldAt bytes 12 4 :=
    UInt32.toNat_ofNat_of_lt' (fieldAt_lt bytes 12 4)
  have lengthField : (decode bytes).payloadLength.toNat = fieldAt bytes 16 8 :=
    payloadLength_decode
  have fields :
      bytes.take (4 + 2 + 2 + 4 + 4 + 8) =
        bytes.take 4 ++ (bytes.drop 4).take 2 ++ (bytes.drop 6).take 2 ++
          (bytes.drop 8).take 4 ++ (bytes.drop 12).take 4 ++ (bytes.drop 16).take 8 := by
    simp only [List.take_add]
  rw [encode, versionField, flagsField, namesField, symbolsField, lengthField,
    encode_fieldAt (by omega), encode_fieldAt (by omega), encode_fieldAt (by omega),
    encode_fieldAt (by omega), encode_fieldAt (by omega)]
  rw [fields, front.magic]
  rfl

end Header

/-- What is laid out is the header of the payload, the payload and its check value. -/
theorem layout_eq_frame
    (flags : UInt16)
    (names symbols : UInt32)
    (payload : Bytes) :
    layout flags names symbols payload =
      (Header.encode
          { version := Snapshot.currentVersion
            flags := flags
            names := names
            symbols := symbols
            payloadLength := UInt64.ofNat payload.length }) ++
        payload ++ trailer payload := by
  have cut :
      LittleEndian.encode 8 (UInt64.ofNat payload.length).toNat =
        LittleEndian.encode 8 payload.length := by
    rw [UInt64.toNat_ofNat']
    exact LittleEndian.encode_mod_capacity 8 payload.length
  rw [layout, Header.encode, cut]
  rfl

/-- The check passes what is laid out, unless the payload is too long for its field. -/
theorem check_layout
    (flags : UInt16)
    (names symbols : UInt32)
    (payload : Bytes) :
    check (layout flags names symbols payload) =
      if payload.length < UInt64.size then
        .ok
          ({ version := Snapshot.currentVersion
             flags := flags
             names := names
             symbols := symbols
             payloadLength := UInt64.ofNat payload.length },
            payload)
      else
        .error .corrupt := by
  have told :
      (UInt64.ofNat payload.length).toNat = payload.length ↔
        payload.length < UInt64.size := by
    rw [UInt64.toNat_ofNat']
    exact Nat.mod_eq_iff_lt (by decide)
  rw [layout_eq_frame, check_frame rfl]
  simp only [told]

/-- Without the front of a container, a sequence is refused for its header. -/
theorem check_of_not_hasFront
    (noFront : ¬ HasFront bytes) :
    check bytes = .error .badHeader := by
  unfold check
  split
  · rfl
  next longWithMagic =>
    obtain ⟨long, isMagic⟩ := not_or.mp longWithMagic
    have otherVersion : (Header.decode bytes).version ≠ Snapshot.currentVersion := by
      intro current
      exact noFront
        ⟨Nat.not_lt.mp long, Decidable.not_not.mp isMagic,
          Header.version_decode_eq_iff.mp current⟩
    simp only [otherVersion, ne_eq, not_false_eq_true, ↓reduceIte]

/-- Behind the front of a container, the told length and the check value are compared. -/
theorem check_of_hasFront
    (front : HasFront bytes) :
    check bytes =
      if 28 + toldLength bytes = bytes.length then
        if storedChecksum bytes = Crc32.checksum (payloadOf bytes) then
          .ok (Header.decode bytes, payloadOf bytes)
        else
          .error
            (.checksumMismatch (storedChecksum bytes)
              (Crc32.checksum (payloadOf bytes)))
      else
        .error .corrupt := by
  have notRefused :
      ¬ (bytes.length < headerLength + trailerLength ∨ bytes.take 4 ≠ magic) :=
    not_or.mpr ⟨Nat.not_lt.mpr front.long, Decidable.not_not.mpr front.magic⟩
  have current := Header.version_decode_eq_iff.mpr front.version
  have framed :
      headerLength + toldLength bytes + trailerLength = 28 + toldLength bytes := by
    rw [headerLength, trailerLength]
    omega
  rw [check, if_neg notRefused]
  simp only [current, Header.payloadLength_decode, framed, ne_eq, not_true_eq_false,
    ↓reduceIte]
  by_cases fits : 28 + toldLength bytes = bytes.length
  · have payloadShape :
        (bytes.drop headerLength).take (toldLength bytes) = payloadOf bytes := by
      rw [payloadOf, ← fits, Nat.add_sub_cancel_left]
      rfl
    have storedAt : headerLength + toldLength bytes = bytes.length - 4 := by
      rw [headerLength]
      omega
    simp only [fits, payloadShape, storedAt, not_true_eq_false, ↓reduceIte]
    rfl
  · rw [if_pos fits, if_neg fits]

/-- A sequence with the front of a container is that front, a payload and four bytes. -/
theorem eq_header_payload_field
    (front : HasFront bytes) :
    bytes =
      (Header.decode bytes).encode ++ payloadOf bytes ++
        LittleEndian.encode 4 (Header.fieldAt bytes (bytes.length - 4) 4) := by
  have long := front.long
  have lastField :
      LittleEndian.encode 4 (Header.fieldAt bytes (bytes.length - 4) 4) =
        (bytes.drop 24).drop (bytes.length - 28) := by
    rw [Header.encode_fieldAt (by omega), List.drop_drop,
      show 24 + (bytes.length - 28) = bytes.length - 4 by omega,
      List.take_of_length_le (by rw [List.length_drop]; omega)]
  rw [Header.encode_decode front, lastField, payloadOf, List.append_assoc,
    List.take_append_drop, List.take_append_drop]

/-- What is left between the header and the check value. -/
theorem length_payloadOf :
    (payloadOf bytes).length = bytes.length - 28 := by
  rw [payloadOf, List.length_take, List.length_drop]
  omega

/-- A header of the current version is known by what it says of its payload. -/
theorem Header.eq_of_told
    (current : header.version = 1)
    (told : header.payloadLength.toNat = payload.length) :
    { version := Snapshot.currentVersion
      flags := header.flags
      names := header.names
      symbols := header.symbols
      payloadLength := UInt64.ofNat payload.length } = header := by
  obtain ⟨version, flags, names, symbols, payloadLength⟩ := header
  simp only at current told
  rw [current, ← told, UInt64.ofNat_toNat]
  rfl

/-- Behind a sound front, a genuine check value leaves a laid out container. -/
theorem eq_layout_of_genuine
    (front : HasFront bytes)
    (fits : 28 + toldLength bytes = bytes.length)
    (genuine : storedChecksum bytes = Crc32.checksum (payloadOf bytes)) :
    bytes =
        layout (Header.decode bytes).flags (Header.decode bytes).names
          (Header.decode bytes).symbols (payloadOf bytes) ∧
      (Header.decode bytes).version = 1 ∧
      (Header.decode bytes).payloadLength.toNat = (payloadOf bytes).length := by
  have current : (Header.decode bytes).version = 1 :=
    Header.version_decode_eq_iff.mpr front.version
  have told :
      (Header.decode bytes).payloadLength.toNat = (payloadOf bytes).length := by
    rw [Header.payloadLength_decode, length_payloadOf]
    omega
  have field :
      LittleEndian.encode 4 (Header.fieldAt bytes (bytes.length - 4) 4) =
        trailer (payloadOf bytes) := by
    rw [trailer, ← genuine, storedChecksum,
      UInt32.toNat_ofNat_of_lt' (Header.fieldAt_lt _ _ 4)]
    rfl
  refine ⟨?_, current, told⟩
  rw [layout_eq_frame, Header.eq_of_told current told, ← field]
  exact eq_header_payload_field front

/-- The check passes exactly the sequences that are laid out as a container. -/
theorem check_eq_ok_iff :
    check bytes = .ok (header, payload) ↔
      bytes = layout header.flags header.names header.symbols payload ∧
        header.version = 1 ∧
        header.payloadLength.toNat = payload.length := by
  constructor
  · intro passed
    by_cases front : HasFront bytes
    · rw [check_of_hasFront front] at passed
      split at passed
      next fits =>
        split at passed
        next genuine =>
          cases passed
          exact eq_layout_of_genuine front fits genuine
        next =>
          cases passed
      next =>
        cases passed
    · rw [check_of_not_hasFront front] at passed
      cases passed
  · rintro ⟨rfl, current, told⟩
    have fits : payload.length < UInt64.size :=
      told ▸ header.payloadLength.toNat_lt
    rw [check_layout, if_pos fits, Header.eq_of_told current told]

/-- The header is refused exactly if the front is not that of a container. -/
theorem check_eq_badHeader_iff :
    check bytes = .error .badHeader ↔ ¬ HasFront bytes := by
  by_cases front : HasFront bytes
  · rw [check_of_hasFront front]
    split
    · split <;> simp [front]
    · simp [front]
  · simp [check_of_not_hasFront front, front]

/-- Behind a sound front, only a length that does not add up is corrupt. -/
theorem check_eq_corrupt_iff :
    check bytes = .error .corrupt ↔
      HasFront bytes ∧ 28 + toldLength bytes ≠ bytes.length := by
  by_cases front : HasFront bytes
  · rw [check_of_hasFront front]
    split
    next fits =>
      split <;> simp [fits]
    next fits =>
      simp [front, fits]
  · simp [check_of_not_hasFront front, front]

/-- In what remains, the check value is not that of the payload, and both are told. -/
theorem check_eq_checksumMismatch_iff
    {stored computed : UInt32} :
    check bytes = .error (.checksumMismatch stored computed) ↔
      HasFront bytes ∧
        28 + toldLength bytes = bytes.length ∧
        storedChecksum bytes = stored ∧
        Crc32.checksum (payloadOf bytes) = computed ∧
        stored ≠ computed := by
  by_cases front : HasFront bytes
  · rw [check_of_hasFront front]
    split
    next fits =>
      split
      next genuine =>
        simp only [reduceCtorEq, false_iff, not_and]
        rintro - - rfl rfl differs
        exact differs genuine
      next differs =>
        constructor
        · intro refused
          cases refused
          exact ⟨front, fits, rfl, rfl, differs⟩
        · rintro ⟨-, -, rfl, rfl, -⟩
          rfl
    next fits =>
      simp [fits]
  · simp [check_of_not_hasFront front, front]

/-- What is packed is laid out, and passes the check if its length can be told. -/
theorem layout_of_pack
    {snapshot : Snapshot}
    (packed : pack snapshot = .ok bytes) :
    ∃ header : Header,
      header.Describes snapshot ∧
        bytes =
          layout header.flags header.names header.symbols snapshot.compactDocument ∧
        (bytes.length < UInt64.size →
          check bytes = .ok (header, snapshot.compactDocument)) := by
  obtain ⟨fewNames, fewRecords⟩ := counts_of_pack packed
  have shape :
      bytes =
        layout (if snapshot.hasBaseTypes then 1 else 0)
          (UInt32.ofNat snapshot.names.length)
          (UInt32.ofNat snapshot.records.length)
          snapshot.compactDocument := by
    rw [layout_eq_frame]
    unfold pack at packed
    rw [if_pos ⟨fewNames, fewRecords⟩] at packed
    exact (Except.ok.inj packed).symm
  refine
    ⟨{ version := Snapshot.currentVersion
       flags := if snapshot.hasBaseTypes then 1 else 0
       names := UInt32.ofNat snapshot.names.length
       symbols := UInt32.ofNat snapshot.records.length
       payloadLength := UInt64.ofNat snapshot.compactDocument.length },
      ⟨rfl, UInt32.toNat_ofNat_of_lt' fewNames, UInt32.toNat_ofNat_of_lt' fewRecords⟩,
      shape, ?_⟩
  intro fits
  have documentFits : snapshot.compactDocument.length < UInt64.size := by
    rw [shape, layout_eq_frame, length_frame] at fits
    omega
  rw [shape, check_layout, if_pos documentFits]

/--
The check passes exactly the sequences that are laid out as a container, and refuses any
other for the first thing that is wrong: the front, the told length or the check value.
In memory it comes to the same verdict.  What is saved of a database is laid out with the
flag, the counts and the document of its snapshot.
-/
theorem check_decides_layout
    (bytes : Bytes) :
    (∀ header payload,
        check bytes = .ok (header, payload) ↔
          bytes = layout header.flags header.names header.symbols payload ∧
            header.version = 1 ∧
            header.payloadLength.toNat = payload.length) ∧
      (check bytes = .error .badHeader ↔ ¬ HasFront bytes) ∧
      (check bytes = .error .corrupt ↔
        HasFront bytes ∧ 28 + toldLength bytes ≠ bytes.length) ∧
      (∀ stored computed,
        check bytes = .error (.checksumMismatch stored computed) ↔
          HasFront bytes ∧
            28 + toldLength bytes = bytes.length ∧
            storedChecksum bytes = stored ∧
            Crc32.checksum (payloadOf bytes) = computed ∧
            stored ≠ computed) ∧
      (∀ limit,
        bytes.length < limit → checkInMemory limit bytes = some (check bytes)) ∧
      ∀ database : Database,
        database.toContainer = .ok bytes →
          ∃ header : Header,
            header.Describes database.snapshot ∧
              bytes =
                layout header.flags header.names header.symbols
                  database.snapshot.compactDocument ∧
              (bytes.length < UInt64.size →
                check bytes = .ok (header, database.snapshot.compactDocument)) := by
  refine ⟨?passed, check_eq_badHeader_iff, check_eq_corrupt_iff, ?mismatched, ?inMemory,
    ?saved⟩
  case passed =>
    intro header payload
    exact check_eq_ok_iff
  case mismatched =>
    intro stored computed
    exact check_eq_checksumMismatch_iff
  case inMemory =>
    intro limit fits
    exact checkInMemory_eq_some_check fits
  case saved =>
    intro database packed
    exact layout_of_pack packed

/-- The container of the empty database is laid out, and passes the check in memory. -/
theorem check_decides_layout_emptyDatabase :
    ∃ container header,
      Database.empty.toContainer = .ok container ∧
        header.Describes Database.empty.snapshot ∧
        container =
          layout header.flags header.names header.symbols
            Database.empty.snapshot.compactDocument ∧
        checkInMemory UInt64.size container =
          some (.ok (header, Database.empty.snapshot.compactDocument)) := by
  obtain ⟨container, packed, length⟩ :
      ∃ container,
        Database.empty.toContainer = .ok container ∧ container.length = 87 :=
    ⟨_, rfl, by decide +kernel⟩
  have fits : container.length < UInt64.size := by
    rw [length]
    decide
  obtain ⟨-, -, -, -, inMemory, saved⟩ := check_decides_layout container
  obtain ⟨header, describes, shape, passes⟩ := saved Database.empty packed
  exact ⟨container, header, packed, describes, shape, passes fits ▸ inMemory _ fits⟩

end Container

end SymbolDatabase
