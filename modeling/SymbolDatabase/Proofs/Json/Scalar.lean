import SymbolDatabase.Json.Number
import SymbolDatabase.Json.Text

namespace SymbolDatabase

/-!
# Numbers and texts read back

What is written for an integer of at most 64 bits is read as that integer, provided
that no digit, point or exponent follows it.  What is written for a text is read as
that text, whatever follows.
-/

namespace Json

namespace Number

/-- Whether a number ends before what follows it. -/
def EndsBefore : Bytes → Prop
  | [] =>
      True
  | byte :: _ =>
      isDigit byte = false ∧ byte ≠ '.'.toUInt8 ∧ isExponentMark byte = false

/-- Whether an integer is read exactly. -/
def IsExact
    (number : Int) :
    Prop :=
  Int64.minValue.toInt ≤ number ∧ number < UInt64.size

theorem toNat_toUInt8_of_isDigit
    {digit : Char}
    (isDecimal : digit.isDigit = true) :
    digit.toUInt8.toNat = digit.toNat := by
  have bounds := Char.isDigit_iff_toNat.mp isDecimal
  have small : digit.toNat < 256 :=
    Nat.lt_of_le_of_lt bounds.2 (by decide)
  exact Nat.mod_eq_of_lt small

theorem isDigit_toUInt8
    {digit : Char}
    (isDecimal : digit.isDigit = true) :
    isDigit digit.toUInt8 = true := by
  have bounds := Char.isDigit_iff_toNat.mp isDecimal
  have sameNumber := toNat_toUInt8_of_isDigit isDecimal
  simp only [isDigit, Bool.and_eq_true, decide_eq_true_eq, UInt8.le_iff_toNat_le,
    sameNumber]
  exact bounds

theorem isDigit_of_mem_digits
    {number : Nat}
    {byte : UInt8}
    (member : byte ∈ digits number) :
    isDigit byte = true := by
  obtain ⟨digit, digitMember, rfl⟩ := List.mem_map.mp member
  exact isDigit_toUInt8
    (Nat.isDigit_of_mem_toDigits (by decide) (by decide) digitMember)

/-- Extending a number by the bytes of digits is extending it by the digits. -/
theorem foldl_map_toUInt8
    {characters : List Char}
    (areDecimal : ∀ digit ∈ characters, digit.isDigit = true)
    (start : Nat) :
    (characters.map Char.toUInt8).foldl
        (fun total digit => total * 10 + digitValue digit) start =
      Nat.ofDigitChars 10 characters start := by
  induction characters generalizing start with
  | nil =>
      simp
  | cons digit rest inductionHypothesis =>
      have sameNumber := toNat_toUInt8_of_isDigit (areDecimal digit (by simp))
      have sameStep :
          start * 10 + digitValue digit.toUInt8 =
            10 * start + (digit.toNat - '0'.toNat) := by
        rw [digitValue, sameNumber, Nat.mul_comm]
        rfl
      rw [List.map_cons, List.foldl_cons, sameStep, Nat.ofDigitChars_cons]
      exact inductionHypothesis
        (fun later member => areDecimal later (by simp [member])) _

/-- The digits of a number stand for it. -/
theorem foldl_digits
    (number : Nat) :
    (digits number).foldl (fun total digit => total * 10 + digitValue digit) 0 =
      number := by
  have areDecimal :
      ∀ digit ∈ Nat.toDigits 10 number, digit.isDigit = true :=
    fun _ member => Nat.isDigit_of_mem_toDigits (by decide) (by decide) member
  rw [digits, foldl_map_toUInt8 areDecimal, Nat.ofDigitChars_ten_toDigits]

theorem le_foldl_digits
    (bytes : Bytes)
    (start : Nat) :
    start ≤
      bytes.foldl (fun total digit => total * 10 + digitValue digit) start := by
  induction bytes generalizing start with
  | nil =>
      exact Nat.le_refl start
  | cons byte rest inductionHypothesis =>
      have grown : start ≤ start * 10 + digitValue byte := by
        omega
      exact Nat.le_trans grown (inductionHypothesis _)

/-- All digits of a 64-bit number are taken. -/
theorem takeDigits_append
    (bytes rest : Bytes)
    (areDigits : ∀ byte ∈ bytes, isDigit byte = true)
    (ends : EndsBefore rest)
    (start used : Nat)
    (fits :
      bytes.foldl (fun total digit => total * 10 + digitValue digit) start <
        UInt64.size) :
    takeDigits start used (bytes ++ rest) =
      ⟨bytes.foldl (fun total digit => total * 10 + digitValue digit) start,
        used + bytes.length, 0, rest⟩ := by
  induction bytes generalizing start used with
  | nil =>
      cases rest with
      | nil =>
          simp [takeDigits]
      | cons byte rest =>
          simp [takeDigits, ends.1]
  | cons byte bytes inductionHypothesis =>
      have stillFits : start * 10 + digitValue byte < UInt64.size :=
        Nat.lt_of_le_of_lt (le_foldl_digits bytes _) fits
      have later :=
        inductionHypothesis
          (fun other member => areDigits other (by simp [member]))
          (start * 10 + digitValue byte) (used + 1) fits
      simp only [List.cons_append, takeDigits, areDigits byte (by simp), ↓reduceIte,
        stillFits, List.foldl_cons, List.length_cons]
      rw [later]
      simp [Nat.add_assoc, Nat.add_comm 1]

/-- The digits of zero are a single zero. -/
theorem digits_zero :
    digits 0 = ['0'.toUInt8] := by
  decide

/-- The digits of a positive number do not start with a zero. -/
theorem digits_eq_cons_of_pos
    {number : Nat}
    (positive : 0 < number) :
    ∃ first rest, digits number = first :: rest ∧ first ≠ '0'.toUInt8 := by
  induction number using Nat.strongRecOn with
  | ind number inductionHypothesis =>
      by_cases small : number < 10
      · have single :
            ∀ digit : Fin 10, 0 < digit.val →
              (Nat.digitChar digit.val).toUInt8 ≠ '0'.toUInt8 := by
          decide
        refine
          ⟨(Nat.digitChar number).toUInt8, [], ?_, single ⟨number, small⟩ positive⟩
        rw [digits, Nat.toDigits_of_lt_base small]
        rfl
      · have large : 10 ≤ number := Nat.le_of_not_lt small
        obtain ⟨first, rest, shape, nonzero⟩ :=
          inductionHypothesis (number / 10)
            (Nat.div_lt_self positive (by decide))
            (Nat.div_pos large (by decide))
        refine
          ⟨first, rest ++ [(Nat.digitChar (number % 10)).toUInt8], ?_, nonzero⟩
        rw [digits] at shape
        rw [digits, Nat.toDigits_of_base_le (by decide) large, List.map_append,
          shape, List.cons_append]
        rfl

/-- An integer that nothing extends is taken as it is. -/
theorem readTail_of_endsBefore
    (positive : Bool)
    (significand used : Nat)
    {rest : Bytes}
    (ends : EndsBefore rest) :
    readTail positive ⟨significand, used, 0, rest⟩ =
      .ok (integerValue positive significand, rest) := by
  cases rest with
  | nil =>
      rfl
  | cons byte rest =>
      simp [readTail, ends.2.1, ends.2.2]

/-- The digits of a 64-bit number are read as that number. -/
theorem readMagnitude_digits
    (positive : Bool)
    {number : Nat}
    (fits : number < UInt64.size)
    {rest : Bytes}
    (ends : EndsBefore rest) :
    readMagnitude positive (digits number ++ rest) =
      .ok (integerValue positive number, rest) := by
  rcases Nat.eq_zero_or_pos number with isZero | isPositive
  · subst isZero
    have noDigit : startsWithDigit rest = false := by
      cases rest with
      | nil =>
          rfl
      | cons byte rest =>
          exact ends.1
    rw [digits_zero]
    simp only [List.cons_append, List.nil_append, readMagnitude, noDigit, ↓reduceIte]
    exact readTail_of_endsBefore positive 0 1 ends
  · obtain ⟨first, more, shape, nonzero⟩ := digits_eq_cons_of_pos isPositive
    have firstIsDigit : isDigit first = true :=
      isDigit_of_mem_digits (by rw [shape]; simp)
    have taken :=
      takeDigits_append (digits number) rest
        (fun _ member => isDigit_of_mem_digits member) ends 0 0
        (by rw [foldl_digits]; exact fits)
    rw [foldl_digits, shape, List.cons_append] at taken
    rw [shape, List.cons_append, readMagnitude]
    simp only [nonzero, ↓reduceIte, firstIsDigit]
    rw [taken]
    exact readTail_of_endsBefore positive number _ ends

/-- The first byte of a written integer is a sign or a digit. -/
theorem write_eq_cons
    (number : Int) :
    ∃ first rest,
      write number = first :: rest ∧
        (first = '-'.toUInt8 ∨ isDigit first = true) := by
  cases number with
  | ofNat number =>
      cases shape : digits number with
      | nil =>
          simp [digits] at shape
      | cons first rest =>
          have firstIsDigit : isDigit first = true :=
            isDigit_of_mem_digits (by rw [shape]; simp)
          exact ⟨first, rest, shape, Or.inr firstIsDigit⟩
  | negSucc number =>
      exact ⟨_, _, rfl, Or.inl rfl⟩

/-- A written integer is read as that integer. -/
theorem read_write
    {number : Int}
    (exact : IsExact number)
    (nesting : Nat)
    {rest : Bytes}
    (ends : EndsBefore rest) :
    read nesting (write number ++ rest) = .ok (.integer number, rest) := by
  cases number with
  | ofNat number =>
      have fits : number < UInt64.size := by
        have below := exact.2
        simp only [Int.ofNat_eq_natCast] at below
        exact_mod_cast below
      have magnitude := readMagnitude_digits true fits ends
      cases shape : digits number with
      | nil =>
          simp [digits] at shape
      | cons first more =>
          have firstIsDigit : isDigit first = true :=
            isDigit_of_mem_digits (by rw [shape]; simp)
          have unsigned : first ≠ '-'.toUInt8 := by
            rintro rfl
            exact absurd firstIsDigit (by decide)
          rw [shape, List.cons_append] at magnitude
          simp only [write, shape, List.cons_append, read, unsigned, ↓reduceIte]
          exact magnitude
  | negSucc number =>
      have bounded : Int64.minValue.toInt ≤ -(number + 1 : Nat) := by
        have above := exact.1
        rw [Int.negSucc_eq] at above
        omega
      have fits : number + 1 < UInt64.size := by
        simp only [Int64.toInt_minValue] at bounded
        simp only [UInt64.size]
        omega
      have magnitude := readMagnitude_digits false fits ends
      simp only [write, List.cons_append, read, ↓reduceIte, magnitude, integerValue]
      have isNegative : 0 < number + 1 ∧ Int64.minValue.toInt ≤ -(number + 1 : Nat) :=
        ⟨Nat.succ_pos number, bounded⟩
      simp only [isNegative, and_self, ↓reduceIte]
      rfl

end Number

namespace Text

/-- The closing quote ends a text. -/
theorem takeBody_quote
    (taken rest : Bytes) :
    takeBody taken ('"'.toUInt8 :: rest) = .ok (taken.reverse, rest) := by
  rw [takeBody.eq_def]
  simp

/-- An escape of one letter is taken as the byte that it stands for. -/
theorem takeBody_escape
    (taken rest : Bytes)
    {letter plain : UInt8}
    (noUnit : letter ≠ 'u'.toUInt8)
    (escapes : plainEscape? letter = some plain) :
    takeBody taken ('\\'.toUInt8 :: letter :: rest) =
      takeBody (plain :: taken) rest := by
  have noQuote : '\\'.toUInt8 ≠ '"'.toUInt8 := by
    decide
  rw [takeBody.eq_def]
  simp only [noQuote, ↓reduceIte, noUnit, escapes]

/-- A code unit that is no surrogate is taken as a code point. -/
theorem takeBody_unit
    (taken rest : Bytes)
    {first second third fourth : UInt8}
    {unit : Nat}
    (stands : hexUnit? first second third fourth = some unit)
    (noTrailing : isTrailing unit = false)
    (noLeading : isLeading unit = false) :
    takeBody taken
        ('\\'.toUInt8 :: 'u'.toUInt8 :: first :: second :: third :: fourth ::
          rest) =
      takeBody (pushCodePoint taken unit) rest := by
  have noQuote : '\\'.toUInt8 ≠ '"'.toUInt8 := by
    decide
  rw [takeBody.eq_def]
  simp only [noQuote, ↓reduceIte, stands, noTrailing, noLeading]
  rfl

/-- A byte that needs no escape is taken as it is. -/
theorem takeBody_plain
    (taken rest : Bytes)
    {byte : UInt8}
    (noQuote : byte ≠ '"'.toUInt8)
    (noBackslash : byte ≠ '\\'.toUInt8)
    (noControl : ¬ byte < 0x20) :
    takeBody taken (byte :: rest) = takeBody (byte :: taken) rest := by
  rw [takeBody.eq_def]
  simp only [noQuote, noBackslash, noControl, ↓reduceIte]

/-- The four digits written for a control character stand for it. -/
theorem hexUnit?_hexDigit :
    ∀ control : Fin 32,
      hexUnit? '0'.toUInt8 '0'.toUInt8 (hexDigit (control.val / 16))
          (hexDigit (control.val % 16)) =
        some control.val := by
  decide

/-- A control character is its own code point. -/
theorem ofText_singleton_control :
    ∀ control : Fin 32,
      Bytes.ofText (String.singleton (Char.ofNat control.val)) =
        [UInt8.ofNat control.val] := by
  decide

/-- The code points of control characters are no surrogates. -/
theorem control_isNoSurrogate :
    ∀ control : Fin 32,
      isTrailing control.val = false ∧ isLeading control.val = false := by
  decide

/-- The written form of a byte is taken as that byte. -/
theorem takeBody_encodeByte
    (taken rest : Bytes)
    (byte : UInt8) :
    takeBody taken (encodeByte byte ++ rest) =
      takeBody (byte :: taken) rest := by
  unfold encodeByte
  split
  next isQuote =>
    subst isQuote
    exact takeBody_escape taken rest (by decide) (by decide)
  split
  next isBackslash =>
    subst isBackslash
    exact takeBody_escape taken rest (by decide) (by decide)
  split
  next isBackspace =>
    subst isBackspace
    exact takeBody_escape taken rest (by decide) (by decide)
  split
  next isFormFeed =>
    subst isFormFeed
    exact takeBody_escape taken rest (by decide) (by decide)
  split
  next isLineFeed =>
    subst isLineFeed
    exact takeBody_escape taken rest (by decide) (by decide)
  split
  next isReturn =>
    subst isReturn
    exact takeBody_escape taken rest (by decide) (by decide)
  split
  next isTab =>
    subst isTab
    exact takeBody_escape taken rest (by decide) (by decide)
  split
  next isControl =>
    let control : Fin 32 := ⟨byte.toNat, isControl⟩
    have noSurrogate := control_isNoSurrogate control
    have pushed : pushCodePoint taken control.val = byte :: taken := by
      rw [pushCodePoint, ofText_singleton_control control]
      simp [control]
    have step :=
      takeBody_unit taken rest (hexUnit?_hexDigit control) noSurrogate.1
        noSurrogate.2
    rw [pushed] at step
    exact step
  next noQuote noBackslash _ _ _ _ _ noControl =>
    exact takeBody_plain taken rest noQuote noBackslash noControl

/-- The written form of bytes, up to the closing quote, is taken as those bytes. -/
theorem takeBody_flatMap_encodeByte
    (taken bytes rest : Bytes) :
    takeBody taken (bytes.flatMap encodeByte ++ '"'.toUInt8 :: rest) =
      .ok (taken.reverse ++ bytes, rest) := by
  induction bytes generalizing taken with
  | nil =>
      rw [List.flatMap_nil, List.nil_append, takeBody_quote, List.append_nil]
  | cons byte bytes inductionHypothesis =>
      rw [List.flatMap_cons, List.append_assoc, takeBody_encodeByte,
        inductionHypothesis, List.reverse_cons, List.append_assoc]
      rfl

/-- A written text is read as that text. -/
theorem read_write
    (text : String)
    (nesting : Nat)
    (rest : Bytes) :
    read nesting (write text ++ rest) = .ok (text, rest) := by
  have body := takeBody_flatMap_encodeByte [] (Bytes.ofText text) rest
  simp only [List.reverse_nil, List.nil_append] at body
  simp only [write, List.cons_append, List.append_assoc, List.nil_append, read, body,
    Bytes.toText?_ofText]

end Text

end Json

end SymbolDatabase
