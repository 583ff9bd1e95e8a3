import SymbolDatabase.Proofs.Container

namespace SymbolDatabase

/-!
# The check in bounded memory

In memory a position is a number below some limit, a sum of positions may reach that
limit, and bytes can be asked for that are not there.  The check adds positions only with
an eye on the limit, and looks only at bytes that are there: whatever length a header
tells, it comes to the verdict that the check comes to with unbounded numbers.
-/

/-- The sum of two positions, if it is below the limit. -/
def addBelow?
    (limit first second : Nat) :
    Option Nat :=
  if first + second < limit then
    some (first + second)
  else
    none

/-- The bytes between two positions, if these are in order and inside. -/
def Bytes.slice?
    (bytes : Bytes)
    (start stop : Nat) :
    Option Bytes :=
  if start ≤ stop ∧ stop ≤ bytes.length then
    some ((bytes.drop start).take (stop - start))
  else
    none

/-- The number in the next bytes and what follows them, if they are there. -/
def LittleEndian.next?
    (width : Nat)
    (bytes : Bytes) :
    Option (Nat × Bytes) :=
  if width ≤ bytes.length then
    some (decode (bytes.take width), bytes.drop width)
  else
    none

namespace Container

/-- The header whose fields come next, behind the magic. -/
def Header.next?
    (bytes : Bytes) :
    Option Header := do
  let (version, bytes) ← LittleEndian.next? 2 bytes
  let (flags, bytes) ← LittleEndian.next? 2 bytes
  let (names, bytes) ← LittleEndian.next? 4 bytes
  let (symbols, bytes) ← LittleEndian.next? 4 bytes
  let (payloadLength, _) ← LittleEndian.next? 8 bytes
  return {
    version := UInt16.ofNat version
    flags := UInt16.ofNat flags
    names := UInt32.ofNat names
    symbols := UInt32.ofNat symbols
    payloadLength := UInt64.ofNat payloadLength
  }

/-- Where the payload ends, if the told length and that position are below the limit. -/
def Header.payloadEnd?
    (limit : Nat)
    (header : Header) :
    Option Nat :=
  if header.payloadLength.toNat < limit then
    addBelow? limit headerLength header.payloadLength.toNat
  else
    none

/-- Check the length and the check value behind a header. -/
def checkPayloadInMemory
    (limit : Nat)
    (bytes : Bytes)
    (header : Header) :
    Option (Except Error (Header × Bytes)) :=
  match header.payloadEnd? limit with
  | none =>
      some (.error .corrupt)
  | some payloadEnd =>
      if addBelow? limit payloadEnd trailerLength ≠ some bytes.length then
        some (.error .corrupt)
      else do
        let payload ← bytes.slice? headerLength payloadEnd
        let behind ← bytes.slice? payloadEnd bytes.length
        let (stored, _) ← LittleEndian.next? 4 behind
        let computed := Crc32.checksum payload
        if UInt32.ofNat stored = computed then
          return .ok (header, payload)
        else
          return .error (.checksumMismatch (UInt32.ofNat stored) computed)

/--
Check framing and checksum with positions below a limit.  There is no verdict if bytes are
asked for that are not there.
-/
def checkInMemory
    (limit : Nat)
    (bytes : Bytes) :
    Option (Except Error (Header × Bytes)) :=
  if bytes.length < headerLength + trailerLength then
    some (.error .badHeader)
  else do
    let start ← bytes.slice? 0 4
    if start ≠ magic then
      return .error .badHeader
    else
      let fields ← bytes.slice? 4 headerLength
      let header ← Header.next? fields
      if header.version ≠ Snapshot.currentVersion then
        return .error .badHeader
      else
        checkPayloadInMemory limit bytes header

end Container

variable {bytes : Bytes} {header : Container.Header} {limit : Nat}

theorem Bytes.slice?_eq_some
    {start stop : Nat}
    (inOrder : start ≤ stop)
    (inside : stop ≤ bytes.length) :
    bytes.slice? start stop = some ((bytes.drop start).take (stop - start)) :=
  if_pos ⟨inOrder, inside⟩

namespace Container

/-- The next field of a slice is a field of the sequence that was sliced. -/
theorem next?_slice
    {offset width rest : Nat}
    (isField : width ≤ rest)
    (inside : offset + rest ≤ bytes.length) :
    LittleEndian.next? width ((bytes.drop offset).take rest) =
      some
        (Header.fieldAt bytes offset width,
          (bytes.drop (offset + width)).take (rest - width)) := by
  have wide : width ≤ ((bytes.drop offset).take rest).length := by
    rw [List.length_take, List.length_drop]
    omega
  rw [LittleEndian.next?, if_pos wide, List.take_take, Nat.min_eq_left isField,
    List.drop_take, List.drop_drop, Header.fieldAt]

/-- The fields of the header are there in a sequence as long as a header. -/
theorem Header.next?_fields
    (long : 24 ≤ bytes.length) :
    Header.next? ((bytes.drop 4).take 20) = some (Header.decode bytes) := by
  simp (disch := omega) only [Header.next?, next?_slice, Option.bind_eq_bind,
    Option.bind_some]
  rfl

/-- The end of a payload is found by adding its told length. -/
theorem eq_of_payloadEnd?
    {payloadEnd : Nat}
    (found : header.payloadEnd? limit = some payloadEnd) :
    payloadEnd = headerLength + header.payloadLength.toNat := by
  unfold Header.payloadEnd? addBelow? at found
  split at found
  · split at found
    · exact (Option.some.inj found).symm
    · cases found
  · cases found

/-- A payload that ends below the limit has an end. -/
theorem payloadEnd?_eq_some
    (below : headerLength + header.payloadLength.toNat < limit) :
    header.payloadEnd? limit =
      some (headerLength + header.payloadLength.toNat) := by
  rw [Header.payloadEnd?, if_pos (by omega), addBelow?, if_pos below]

/-- Behind a header, positions below a limit lead where unbounded numbers lead. -/
theorem checkPayloadInMemory_eq_some
    (fits : bytes.length < limit) :
    checkPayloadInMemory limit bytes header =
      some
        (if headerLength + header.payloadLength.toNat + trailerLength ≠ bytes.length then
          .error .corrupt
        else
          let payload := (bytes.drop headerLength).take header.payloadLength.toNat
          let stored :=
            UInt32.ofNat
              (Header.fieldAt bytes (headerLength + header.payloadLength.toNat) 4)
          let computed := Crc32.checksum payload
          if stored = computed then
            .ok (header, payload)
          else
            .error (.checksumMismatch stored computed)) := by
  unfold checkPayloadInMemory
  -- Sums that do not stay below the limit exceed the length, and are refused with it.
  generalize isEnd : headerLength + header.payloadLength.toNat = payloadEnd
  by_cases whole : payloadEnd + trailerLength = bytes.length
  · have ends : header.payloadEnd? limit = some payloadEnd := by
      rw [payloadEnd?_eq_some (by omega), isEnd]
    have sum : addBelow? limit payloadEnd trailerLength = some bytes.length := by
      rw [addBelow?, whole, if_pos fits]
    have payload :
        bytes.slice? headerLength payloadEnd =
          some ((bytes.drop headerLength).take header.payloadLength.toNat) := by
      rw [Bytes.slice?_eq_some (by omega) (by omega), ← isEnd, Nat.add_sub_cancel_left]
    have behind :
        bytes.slice? payloadEnd bytes.length = some ((bytes.drop payloadEnd).take 4) := by
      rw [Bytes.slice?_eq_some (by omega) (Nat.le_refl _), ← whole,
        Nat.add_sub_cancel_left, trailerLength]
    have stored :=
      next?_slice (Nat.le_refl 4)
        (show payloadEnd + 4 ≤ bytes.length from Nat.le_of_eq whole)
    simp only [ends, sum, payload, behind, stored, whole, ne_eq, not_true_eq_false,
      ↓reduceIte, Option.bind_eq_bind, Option.bind_some, Option.pure_def]
    split <;> rfl
  · rw [if_pos whole]
    split
    next =>
      rfl
    next position found =>
      have otherSum : addBelow? limit position trailerLength ≠ some bytes.length := by
        rw [eq_of_payloadEnd? found, isEnd, addBelow?]
        split <;> simp [whole]
      rw [if_pos otherSum]

/-- With positions below a limit, the check comes to its verdict on all that fits. -/
theorem checkInMemory_eq_some_check
    (fits : bytes.length < limit) :
    checkInMemory limit bytes = some (check bytes) := by
  unfold checkInMemory check
  by_cases short : bytes.length < headerLength + trailerLength
  · simp only [short, true_or, ↓reduceIte]
  have long : 28 ≤ bytes.length := Nat.not_lt.mp short
  have start : bytes.slice? 0 4 = some (bytes.take 4) :=
    Bytes.slice?_eq_some (by omega) (by omega)
  have fields : bytes.slice? 4 headerLength = some ((bytes.drop 4).take 20) :=
    Bytes.slice?_eq_some (by decide) (by rw [headerLength]; omega)
  have header := Header.next?_fields (show 24 ≤ bytes.length by omega)
  simp only [short, start, fields, header, false_or, ↓reduceIte, Option.bind_eq_bind,
    Option.bind_some, Option.pure_def]
  split
  · rfl
  split
  · rfl
  · exact checkPayloadInMemory_eq_some fits

end Container

end SymbolDatabase
