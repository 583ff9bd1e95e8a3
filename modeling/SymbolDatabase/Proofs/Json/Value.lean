import SymbolDatabase.Json.Any
import SymbolDatabase.Proofs.Json.Container

namespace SymbolDatabase

/-!
# Values read back

A reader reads a value if it takes what is written for the value, in either layout
and behind blanks, and stops where the value ends.  A plain value has exact numbers
only and a bounded nesting; within that bound it is read back as it is.
-/

namespace Json

open Reader

/-- A reader takes what is written for a value, and answers a result. -/
def ReadsAt
    {α : Type}
    (nesting : Nat)
    (reader : Reader α)
    (value : Value)
    (result : α) :
    Prop :=
  ∀ layout depth blanks rest,
    AreBlank blanks →
      Number.EndsBefore rest →
        reader nesting (blanks ++ (value.write layout depth ++ rest)) =
          .ok (result, rest)

namespace Value

/-- A value whose numbers are exact and whose containers are nested within a depth. -/
inductive Plain : Nat → Value → Prop where
  | null
      {depth : Nat} :
      Plain depth .null
  | boolean
      {depth : Nat}
      (flag : Bool) :
      Plain depth (.boolean flag)
  | integer
      {depth : Nat}
      {number : Int} :
      Number.IsExact number →
      Plain depth (.integer number)
  | text
      {depth : Nat}
      (content : String) :
      Plain depth (.text content)
  | array
      {depth : Nat}
      {items : List Value} :
      (∀ item ∈ items, Plain depth item) →
      Plain (depth + 1) (.array items)
  | object
      {depth : Nat}
      {members : List (String × Value)} :
      (∀ entry ∈ members, Plain depth entry.2) →
      Plain (depth + 1) (.object members)

theorem isBlank_of_isDigit
    {byte : UInt8}
    (digit : Number.isDigit byte = true) :
    isBlank byte = false := by
  cases blank : isBlank byte with
  | false =>
      rfl
  | true =>
      have notDigit := (endsBefore_of_isBlank blank []).1
      rw [digit] at notDigit
      cases notDigit

/-- A sign or a digit is none of the bytes that other values begin with. -/
theorem ne_of_isNumeric
    {byte other : UInt8}
    (isNumeric : byte = '-'.toUInt8 ∨ Number.isDigit byte = true)
    (noSign : other ≠ '-'.toUInt8)
    (noDigit : Number.isDigit other = false) :
    byte ≠ other := by
  rintro rfl
  rcases isNumeric with isSign | isDigit
  · exact noSign isSign
  · rw [noDigit] at isDigit
    cases isDigit

/-- A written value begins with a byte that neither is blank nor closes an array. -/
theorem write_begins
    (layout : Layout)
    (depth : Nat)
    (value : Value) :
    ∃ byte after,
      value.write layout depth = byte :: after ∧
        isBlank byte = false ∧ byte ≠ ']'.toUInt8 := by
  cases value with
  | null =>
      exact ⟨_, _, rfl, by decide, by decide⟩
  | boolean flag =>
      cases flag with
      | false =>
          exact ⟨_, _, rfl, by decide, by decide⟩
      | true =>
          exact ⟨_, _, rfl, by decide, by decide⟩
  | integer number =>
      obtain ⟨first, rest, shape, isNumeric⟩ := Number.write_eq_cons number
      refine ⟨first, rest, shape, ?_, ?_⟩
      · rcases isNumeric with rfl | isDigit
        · decide
        · exact isBlank_of_isDigit isDigit
      · exact ne_of_isNumeric isNumeric (by decide) (by decide)
  | real =>
      exact ⟨_, _, rfl, by decide, by decide⟩
  | text content =>
      exact ⟨_, _, rfl, by decide, by decide⟩
  | array items =>
      exact ⟨_, _, write_array layout depth items, by decide, by decide⟩
  | object members =>
      exact ⟨_, _, write_object layout depth members, by decide, by decide⟩

/-- Only null begins like null. -/
theorem write_ne_of_ne_null
    {value : Value}
    (notNull : value ≠ .null)
    (layout : Layout)
    (depth : Nat)
    (after : Bytes) :
    value.write layout depth ≠ 'n'.toUInt8 :: after := by
  have differs :
      ∀ {first : UInt8} {rest : Bytes},
        value.write layout depth = first :: rest →
          first ≠ 'n'.toUInt8 →
            value.write layout depth ≠ 'n'.toUInt8 :: after := by
    intro first rest shape isOther isNull
    exact isOther (List.cons.inj (shape.symm.trans isNull)).1
  cases value with
  | null =>
      exact absurd rfl notNull
  | boolean flag =>
      cases flag with
      | false =>
          exact differs rfl (by decide)
      | true =>
          exact differs rfl (by decide)
  | integer number =>
      obtain ⟨first, rest, shape, isNumeric⟩ := Number.write_eq_cons number
      exact differs shape (ne_of_isNumeric isNumeric (by decide) (by decide))
  | real =>
      exact differs rfl (by decide)
  | text content =>
      exact differs rfl (by decide)
  | array items =>
      exact differs (write_array layout depth items) (by decide)
  | object members =>
      exact differs (write_object layout depth members) (by decide)

end Value

namespace Reader

/-- Consuming a byte leaves the bytes behind it. -/
theorem advance_cons
    (nesting : Nat)
    (byte : UInt8)
    (rest : Bytes) :
    advance nesting (byte :: rest) = .ok ((), rest) :=
  rfl

/-- Given bytes are consumed where they stand. -/
theorem literal_append
    (nesting : Nat)
    (bytes rest : Bytes) :
    literal bytes nesting (bytes ++ rest) = .ok ((), rest) := by
  induction bytes with
  | nil =>
      rfl
  | cons byte bytes inductionHypothesis =>
      simp only [List.cons_append, literal, ↓reduceIte, inductionHypothesis]

/-- Looking at a written value answers the byte that it begins with. -/
theorem look_write
    {value : Value}
    {layout : Layout}
    {depth : Nat}
    {first : UInt8}
    {after : Bytes}
    (shape : value.write layout depth = first :: after)
    (nesting : Nat)
    {blanks : Bytes}
    (areBlank : AreBlank blanks)
    (rest : Bytes) :
    look nesting (blanks ++ (value.write layout depth ++ rest)) =
      .ok (first, value.write layout depth ++ rest) := by
  obtain ⟨byte, other, begins, solid, -⟩ := value.write_begins layout depth
  obtain rfl : byte = first :=
    (List.cons.inj (begins.symm.trans shape)).1
  rw [shape, List.cons_append]
  exact look_append areBlank solid nesting (after ++ rest)

/-- A key and its colon are read up to the value of the member. -/
theorem key_append
    (layout : Layout)
    (nesting : Nat)
    (name : String)
    (rest : Bytes) :
    ∃ blanks,
      AreBlank blanks ∧
        Text.read nesting (Text.write name ++ (layout.colon ++ rest)) =
          .ok (name, ':'.toUInt8 :: (blanks ++ rest)) ∧
        punctuation ':' nesting (':'.toUInt8 :: (blanks ++ rest)) =
          .ok ((), blanks ++ rest) := by
  have marked :
      ∀ after,
        punctuation ':' nesting (':'.toUInt8 :: after) = .ok ((), after) := by
    intro after
    have solid : isBlank ':'.toUInt8 = false := by
      decide
    rw [punctuation, bind_of_ok (look_cons solid nesting after), if_pos rfl]
    rfl
  cases layout with
  | compact =>
      exact ⟨[], areBlank_nil, Text.read_write name nesting _, marked _⟩
  | indented =>
      refine ⟨[0x20], ?_, Text.read_write name nesting _, marked _⟩
      intro byte member
      rw [List.mem_singleton.mp member]
      decide

/-- A written member is read as its key, a colon and its value. -/
theorem member_append
    {α : Type}
    {nesting : Nat}
    {reader : Reader α}
    {value : Value}
    {result : α}
    (reads : ReadsAt nesting reader value result)
    (name : String)
    (layout : Layout)
    (depth : Nat)
    {rest : Bytes}
    (ends : Number.EndsBefore rest) :
    ∃ behindKey behindColon,
      Text.read nesting (Value.memberForm layout depth (name, value) ++ rest) =
          .ok (name, behindKey) ∧
        punctuation ':' nesting behindKey = .ok ((), behindColon) ∧
        reader nesting behindColon = .ok (result, rest) := by
  obtain ⟨blanks, areBlank, nameRead, colonRead⟩ :=
    key_append layout nesting name (value.write layout depth ++ rest)
  refine ⟨_, _, ?_, colonRead, reads layout depth blanks rest areBlank ends⟩
  rw [Value.memberForm, List.append_assoc, List.append_assoc]
  exact nameRead

section Items

variable
  {α : Type}
  {nesting : Nat}
  {item : Reader α}
  {form : α → Value}
  {entries : List α}

/-- Reading items one after another collects them in reverse. -/
theorem walks_items
    (reads : ∀ entry ∈ entries, ReadsAt nesting item (form entry) entry)
    (layout : Layout)
    (depth : Nat)
    (taken : List α) :
    Walks nesting (fun taken => do return (← item) :: taken) taken
      ((entries.map form).map (Value.write layout depth))
      (entries.reverse ++ taken) := by
  induction entries generalizing taken with
  | nil =>
      exact .nil taken
  | cons entry rest inductionHypothesis =>
      have later :=
        inductionHypothesis (fun other member => reads other (by simp [member]))
          (entry :: taken)
      rw [List.reverse_cons, List.append_assoc]
      refine .cons ?_ later
      intro after ends
      have read := reads entry (by simp) layout depth [] after areBlank_nil ends
      rw [List.nil_append] at read
      rw [bind_of_ok read]
      rfl

/-- The items of a written array are read, up to its closing byte. -/
theorem items_enclose
    (reads : ∀ entry ∈ entries, ReadsAt nesting item (form entry) entry)
    (layout : Layout)
    (depth : Nat)
    (rest : Bytes) :
    items item true nesting
        (layout.enclose depth
            ((entries.map form).map (Value.write layout (depth + 1))) ++
          ']'.toUInt8 :: rest) =
      .ok (entries, ']'.toUInt8 :: rest) := by
  have begin :
      ∀ written ∈ (entries.map form).map (Value.write layout (depth + 1)),
        ∃ byte after,
          written = byte :: after ∧ isBlank byte = false ∧ byte ≠ ']'.toUInt8 := by
    intro written member
    obtain ⟨value, -, rfl⟩ := List.mem_map.mp member
    exact Value.write_begins layout (depth + 1) value
  have collected :=
    collect_enclose delimits_hasItem
      (walks_items reads layout (depth + 1) []) begin layout depth rest
  rw [items, bind_of_ok collected, List.append_nil, List.reverse_reverse]
  rfl

/-- An array is read from its opening byte on. -/
theorem array_enclose
    {β : Type}
    (reads : ∀ entry ∈ entries, ReadsAt nesting item (form entry) entry)
    (finish : List α → β)
    (layout : Layout)
    (depth : Nat)
    (rest : Bytes) :
    (do
        advance
        let found ← nested (items item true)
        advance
        pure (finish found) : Reader β)
        (nesting + 1)
        ((Value.array (entries.map form)).write layout depth ++ rest) =
      .ok (finish entries, rest) := by
  have inside :
      nested (items item true) (nesting + 1) _ = _ :=
    items_enclose reads layout depth rest
  rw [Value.write_array]
  simp only [List.cons_append, List.append_assoc, List.nil_append]
  rw [bind_of_ok (advance_cons _ _ _), bind_of_ok inside,
    bind_of_ok (advance_cons _ _ _)]
  rfl

end Items

/-- A step takes a written member, whatever follows the member. -/
def TakesMember
    {σ : Type}
    (nesting : Nat)
    (step : σ → Reader σ)
    (state : σ)
    (entry : String × Value)
    (next : σ) :
    Prop :=
  ∀ layout depth rest,
    Number.EndsBefore rest →
      step state nesting (Value.memberForm layout depth entry ++ rest) =
        .ok (next, rest)

/-- A step takes written members one after another. -/
inductive TakesMembers
    {σ : Type}
    (nesting : Nat)
    (step : σ → Reader σ) :
    σ → List (String × Value) → σ → Prop where
  | nil
      (state : σ) :
      TakesMembers nesting step state [] state
  | cons
      {state next final : σ}
      {entry : String × Value}
      {rest : List (String × Value)} :
      TakesMember nesting step state entry next →
      TakesMembers nesting step next rest final →
      TakesMembers nesting step state (entry :: rest) final

section Members

variable
  {σ : Type}
  {nesting : Nat}
  {step : σ → Reader σ}
  {state final : σ}
  {members : List (String × Value)}

theorem TakesMembers.append
    {later : List (String × Value)}
    {last : σ}
    (takes : TakesMembers nesting step state members final)
    (takesLater : TakesMembers nesting step final later last) :
    TakesMembers nesting step state (members ++ later) last := by
  induction takes with
  | nil _ =>
      exact takesLater
  | cons takesEntry _ inductionHypothesis =>
      exact .cons takesEntry (inductionHypothesis takesLater)

theorem TakesMembers.walks
    (takes : TakesMembers nesting step state members final)
    (layout : Layout)
    (depth : Nat) :
    Walks nesting step state (members.map (Value.memberForm layout depth))
      final := by
  induction takes with
  | nil state =>
      exact .nil state
  | cons takesEntry _ inductionHypothesis =>
      exact .cons (takesEntry layout depth) inductionHypothesis

/-- The members of a written object are taken, up to its closing byte. -/
theorem TakesMembers.collect
    (takes : TakesMembers nesting step state members final)
    (layout : Layout)
    (depth : Nat)
    (rest : Bytes) :
    Reader.collect hasMember step true state nesting
        (layout.enclose depth (members.map (Value.memberForm layout (depth + 1))) ++
          '}'.toUInt8 :: rest) =
      .ok (final, '}'.toUInt8 :: rest) := by
  have begin :
      ∀ written ∈ members.map (Value.memberForm layout (depth + 1)),
        ∃ byte after, written = byte :: after ∧ byte = '"'.toUInt8 := by
    intro written member
    obtain ⟨entry, -, rfl⟩ := List.mem_map.mp member
    exact ⟨_, _, rfl, rfl⟩
  exact collect_enclose delimits_hasMember (takes.walks layout (depth + 1)) begin
    layout depth rest

/-- An object is read from its opening byte on, if its inside is. -/
theorem object_enclose
    {α β : Type}
    {inside : Reader α}
    {layout : Layout}
    {depth : Nat}
    {rest : Bytes}
    {result : α}
    (reads :
      inside nesting
          (layout.enclose depth
              (members.map (Value.memberForm layout (depth + 1))) ++
            '}'.toUInt8 :: rest) =
        .ok (result, '}'.toUInt8 :: rest))
    (finish : α → β) :
    (do
        advance
        let found ← nested inside
        advance
        pure (finish found) : Reader β)
        (nesting + 1)
        ((Value.object members).write layout depth ++ rest) =
      .ok (finish result, rest) := by
  have nestedReads :
      nested inside (nesting + 1) _ = _ :=
    reads
  rw [Value.write_object]
  simp only [List.cons_append, List.append_assoc, List.nil_append]
  rw [bind_of_ok (advance_cons _ _ _), bind_of_ok nestedReads,
    bind_of_ok (advance_cons _ _ _)]
  rfl

end Members

/-- Reading members one after another collects them in reverse. -/
theorem takesMembers_key
    {nesting : Nat}
    {inner : Reader Value}
    {members : List (String × Value)}
    (reads : ∀ entry ∈ members, ReadsAt nesting inner entry.2 entry.2)
    (taken : List (String × Value)) :
    TakesMembers nesting
      (fun taken => do
        let name ← key
        let value ← inner
        pure ((name, value) :: taken))
      taken members (members.reverse ++ taken) := by
  induction members generalizing taken with
  | nil =>
      exact .nil taken
  | cons entry rest inductionHypothesis =>
      have later :=
        inductionHypothesis (fun other member => reads other (by simp [member]))
          (entry :: taken)
      rw [List.reverse_cons, List.append_assoc]
      refine .cons ?_ later
      intro layout depth after ends
      obtain ⟨behindKey, behindColon, nameRead, colonRead, valueRead⟩ :=
        member_append (reads entry (by simp)) entry.1 layout depth ends
      have keyRead :
          key nesting (Value.memberForm layout depth entry ++ after) =
            .ok (entry.1, behindColon) := by
        rw [key, bind_of_ok nameRead, bind_of_ok colonRead]
        rfl
      show (key >>= _) nesting _ = _
      rw [bind_of_ok keyRead, bind_of_ok valueRead]
      rfl

/-- A value is read back if the values inside it are, one level deeper. -/
theorem readsAt_valueWith
    {nesting : Nat}
    {inner : Reader Value}
    (readsInner :
      ∀ deeper entry,
        nesting = deeper + 1 → entry.Plain deeper →
          ReadsAt deeper inner entry entry)
    {value : Value}
    (plain : value.Plain nesting) :
    ReadsAt nesting (valueWith inner) value value := by
  intro layout depth blanks rest areBlank ends
  obtain ⟨byte, after, shape, -⟩ := value.write_begins layout depth
  rw [valueWith, bind_of_ok (look_write shape nesting areBlank rest)]
  cases plain with
  | null =>
      obtain rfl : 'n'.toUInt8 = byte := (List.cons.inj shape).1
      rw [if_pos rfl, Value.write, bind_of_ok (literal_append _ _ _)]
      rfl
  | boolean flag =>
      cases flag with
      | true =>
          obtain rfl : 't'.toUInt8 = byte := (List.cons.inj shape).1
          rw [if_neg (by decide), if_pos rfl, Value.write,
            bind_of_ok (literal_append _ _ _)]
          rfl
      | false =>
          obtain rfl : 'f'.toUInt8 = byte := (List.cons.inj shape).1
          rw [if_neg (by decide), if_neg (by decide), if_pos rfl, Value.write,
            bind_of_ok (literal_append _ _ _)]
          rfl
  | integer exactNumber =>
      obtain ⟨first, more, written, isNumeric⟩ := Number.write_eq_cons _
      obtain rfl : first = byte :=
        (List.cons.inj (written.symm.trans shape)).1
      rw [if_neg (Value.ne_of_isNumeric isNumeric (by decide) (by decide)),
        if_neg (Value.ne_of_isNumeric isNumeric (by decide) (by decide)),
        if_neg (Value.ne_of_isNumeric isNumeric (by decide) (by decide)),
        if_pos isNumeric]
      exact Number.read_write exactNumber nesting ends
  | text content =>
      obtain rfl : '"'.toUInt8 = byte := (List.cons.inj shape).1
      rw [if_neg (by decide), if_neg (by decide), if_neg (by decide),
        if_neg (by decide), if_pos rfl, Value.write,
        bind_of_ok (Text.read_write content nesting rest)]
      rfl
  | @array deeper items plainItems =>
      rw [Value.write_array] at shape
      obtain rfl : '['.toUInt8 = byte := (List.cons.inj shape).1
      have reads :
          ∀ entry ∈ items, ReadsAt deeper inner (id entry) entry :=
        fun entry member => readsInner deeper entry rfl (plainItems entry member)
      have read := array_enclose reads Value.array layout depth rest
      rw [List.map_id] at read
      rw [if_neg (by decide), if_neg (by decide), if_neg (by decide),
        if_neg (by decide), if_neg (by decide), if_pos rfl]
      exact read
  | @object deeper members plainMembers =>
      rw [Value.write_object] at shape
      obtain rfl : '\x7b'.toUInt8 = byte := (List.cons.inj shape).1
      have reads :
          ∀ entry ∈ members, ReadsAt deeper inner entry.2 entry.2 :=
        fun entry member => readsInner deeper entry.2 rfl (plainMembers entry member)
      have read :=
        object_enclose ((takesMembers_key reads []).collect layout depth rest)
          fun reversed => Value.object reversed.reverse
      rw [List.append_nil, List.reverse_reverse] at read
      rw [if_neg (by decide), if_neg (by decide), if_neg (by decide),
        if_neg (by decide), if_neg (by decide), if_neg (by decide), if_pos rfl]
      exact read

/-- A plain value is read back where its containers may still be opened. -/
theorem readsAt_value
    {nesting : Nat}
    {value : Value}
    (plain : value.Plain nesting) :
    ReadsAt nesting Reader.value value value := by
  induction nesting generalizing value with
  | zero =>
      have read : ReadsAt 0 (valueWith (fail .malformed)) value value := by
        refine readsAt_valueWith ?_ plain
        intro deeper entry isDeeper
        cases isDeeper
      exact read
  | succ nesting inductionHypothesis =>
      have read :
          ReadsAt (nesting + 1) (valueWith (valueWithin nesting)) value value := by
        refine readsAt_valueWith ?_ plain
        intro deeper entry isDeeper entryPlain
        cases isDeeper
        exact inductionHypothesis entryPlain
      exact read

end Reader

end Json

end SymbolDatabase
