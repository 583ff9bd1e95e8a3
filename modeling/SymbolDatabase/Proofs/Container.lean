import SymbolDatabase.Container
import SymbolDatabase.Proofs.Snapshot.Document

namespace SymbolDatabase

/-!
# Containers unpacked

What was packed passes every check of the container again, and gives the snapshot it
was packed from, provided that the length of the payload fits its field.
-/

namespace Container

namespace Header

@[simp]
theorem length_encode
    (header : Header) :
    header.encode.length = headerLength := by
  simp [encode, magic, headerLength]

/-- A written header is read back, whatever follows it. -/
theorem decode_append
    (header : Header)
    (rest : Bytes) :
    decode (header.encode ++ rest) = header := by
  obtain ⟨version, flags, names, symbols, payloadLength⟩ := header
  simp [decode, encode, fieldAt, magic, List.drop_append,
    LittleEndian.decode_encode, LittleEndian.capacity, List.drop_eq_nil_of_le]

/-- The number in a field is the number written there, cut to the width. -/
theorem fieldAt_append
    {front : Bytes}
    {offset : Nat}
    (isOffset : front.length = offset)
    (width value : Nat) :
    fieldAt (front ++ LittleEndian.encode width value) offset width =
      value % LittleEndian.capacity width := by
  have whole :
      (LittleEndian.encode width value).take width =
        LittleEndian.encode width value :=
    List.take_of_length_le (Nat.le_of_eq (LittleEndian.length_encode width value))
  rw [fieldAt, List.drop_left' isOffset, whole, LittleEndian.decode_encode]

end Header

@[simp]
theorem length_trailer
    (payload : Bytes) :
    (trailer payload).length = trailerLength := by
  simp [trailer]

variable {header : Header} {payload : Bytes}

theorem length_frame :
    (header.encode ++ payload ++ trailer payload).length =
      headerLength + payload.length + trailerLength := by
  simp only [List.length_append, Header.length_encode, length_trailer]

/-- The front of a container is its header. -/
theorem decode_frame :
    Header.decode (header.encode ++ payload ++ trailer payload) = header := by
  rw [List.append_assoc]
  exact header.decode_append _

theorem take_magic_frame :
    (header.encode ++ payload ++ trailer payload).take 4 = magic := by
  simp [Header.encode, magic]

/-- The check value behind a payload is the one computed from it. -/
theorem stored_eq_checksum :
    UInt32.ofNat
        (Header.fieldAt (header.encode ++ payload ++ trailer payload)
          (headerLength + payload.length) 4) =
      Crc32.checksum payload := by
  have offset :
      (header.encode ++ payload).length = headerLength + payload.length := by
    rw [List.length_append, Header.length_encode]
  have field :=
    Header.fieldAt_append offset trailerLength (Crc32.checksum payload).toNat
  have fits : (Crc32.checksum payload).toNat < LittleEndian.capacity 4 :=
    (Crc32.checksum payload).toNat_lt
  rw [trailer]
  rw [trailerLength] at field ⊢
  rw [field, Nat.mod_eq_of_lt fits, UInt32.ofNat_toNat]

/-- A frame of the current version passes if its header tells the right length. -/
theorem check_frame
    (current : header.version = Snapshot.currentVersion) :
    check (header.encode ++ payload ++ trailer payload) =
      if header.payloadLength.toNat = payload.length then
        .ok (header, payload)
      else
        .error .corrupt := by
  have longEnough :
      ¬ ((header.encode ++ payload ++ trailer payload).length <
            headerLength + trailerLength ∨
          (header.encode ++ payload ++ trailer payload).take 4 ≠ magic) := by
    rw [length_frame, take_magic_frame]
    simp only [ne_eq, not_true_eq_false, or_false]
    omega
  rw [check, if_neg longEnough]
  simp only [decode_frame, current, length_frame, ne_eq, not_true_eq_false,
    ↓reduceIte]
  by_cases told : header.payloadLength.toNat = payload.length
  · have payloadTaken :
        ((header.encode ++ payload ++ trailer payload).drop headerLength).take
            payload.length =
          payload := by
      rw [List.append_assoc, List.drop_left' header.length_encode, List.take_left]
    simp only [told, payloadTaken, stored_eq_checksum, not_true_eq_false, ↓reduceIte]
  · have otherLength :
        headerLength + header.payloadLength.toNat + trailerLength ≠
          headerLength + payload.length + trailerLength := by
      omega
    rw [if_pos otherLength, if_neg told]

/-- The lowest flag that is written for base types is read as such. -/
theorem hasBaseTypes_flag
    (version : UInt16)
    (flag : Bool)
    (names symbols : UInt32)
    (payloadLength : UInt64) :
    Header.hasBaseTypes
        ⟨version, if flag then 1 else 0, names, symbols, payloadLength⟩ =
      flag := by
  cases flag <;> simp [Header.hasBaseTypes]

/-- Only a snapshot whose counts fit is packed. -/
theorem counts_of_pack
    {snapshot : Snapshot}
    {container : Bytes}
    (packed : pack snapshot = .ok container) :
    snapshot.names.length < UInt32.size ∧ snapshot.records.length < UInt32.size := by
  unfold pack at packed
  split at packed
  next fits =>
    exact fits
  next =>
    cases packed

/--
A snapshot whose counts fit is packed, and what was packed is unpacked again unless
the payload is too long for the header to tell its length.
-/
theorem unpack_pack
    (snapshot : Snapshot)
    (fewNames : snapshot.names.length < UInt32.size)
    (fewRecords : snapshot.records.length < UInt32.size) :
    ∃ container,
      pack snapshot = .ok container ∧
        container.length =
          headerLength + snapshot.compactDocument.length + trailerLength ∧
        unpack container =
          if snapshot.compactDocument.length < UInt64.size then
            .ok snapshot
          else
            .error .corrupt := by
  let header : Header :=
    { version := Snapshot.currentVersion
      flags := if snapshot.hasBaseTypes then 1 else 0
      names := UInt32.ofNat snapshot.names.length
      symbols := UInt32.ofNat snapshot.records.length
      payloadLength := UInt64.ofNat snapshot.compactDocument.length }
  let payload := snapshot.compactDocument
  refine ⟨header.encode ++ payload ++ trailer payload, ?_, ?_, ?_⟩
  · rw [pack, if_pos ⟨fewNames, fewRecords⟩]
  · exact length_frame
  · have told :
        header.payloadLength.toNat = payload.length ↔ payload.length < UInt64.size := by
      have cut : header.payloadLength.toNat = payload.length % UInt64.size :=
        UInt64.toNat_ofNat'
      rw [cut]
      exact Nat.mod_eq_iff_lt (by decide)
    have agrees :
        snapshot.names.length = header.names.toNat ∧
          snapshot.records.length = header.symbols.toNat ∧
          snapshot.hasBaseTypes = header.hasBaseTypes := by
      refine ⟨?_, ?_, (hasBaseTypes_flag _ _ _ _ _).symm⟩
      · exact (UInt32.toNat_ofNat_of_lt' fewNames).symm
      · exact (UInt32.toNat_ofNat_of_lt' fewRecords).symm
    rw [unpack, check_frame rfl]
    by_cases fits : payload.length < UInt64.size
    · rw [if_pos (told.mpr fits), if_pos fits]
      simp only [payload, snapshot.ofDocument_compactDocument]
      rw [if_pos agrees]
    · rw [if_neg (mt told.mp fits), if_neg fits]

end Container

end SymbolDatabase
