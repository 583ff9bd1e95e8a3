import SymbolDatabase.Proofs.Json.Record
import SymbolDatabase.Snapshot.Document

namespace SymbolDatabase

/-!
# Documents read back

Every slot, signature, template argument and body is taken out of its value, and
every name, record and snapshot is read from its written form.  So both documents of
a snapshot, the compact and the indented one, hold that snapshot.
-/

open Json Reader

namespace Json.Value

theorem natBelow?_ofNat
    {bound number : Nat}
    (below : number < bound) :
    natBelow? bound (.ofNat number) = some number := by
  simp [natBelow?, ofNat, below]

@[simp]
theorem signed?_toInt
    (number : Int64) :
    signed? (.integer number.toInt) = some number := by
  have bounds :
      Int64.minValue.toInt ≤ number.toInt ∧ number.toInt ≤ Int64.maxValue.toInt :=
    ⟨number.minValue_le_toInt, number.toInt_le⟩
  rw [signed?, if_pos bounds, Int64.ofInt_toInt]

theorem list?_array
    {α : Type}
    {item? : Value → Option α}
    {form : α → Value}
    {entries : List α}
    (takes : ∀ entry ∈ entries, item? (form entry) = some entry) :
    list? item? (.array (entries.map form)) = some entries := by
  induction entries with
  | nil =>
      rfl
  | cons entry rest inductionHypothesis =>
      have later :=
        inductionHypothesis fun other member => takes other (by simp [member])
      simp only [list?] at later
      simp [list?, takes entry (by simp), later]

end Json.Value

@[simp]
theorem word32OfValue?_ofNat
    (number : UInt32) :
    word32OfValue? (.ofNat number.toNat) = some number := by
  simp [word32OfValue?, Value.natBelow?_ofNat number.toNat_lt]

@[simp]
theorem word64OfValue?_ofNat
    (number : UInt64) :
    word64OfValue? (.ofNat number.toNat) = some number := by
  simp [word64OfValue?, Value.natBelow?_ofNat number.toNat_lt]

@[simp]
theorem Passing.ofText?_text
    (passing : Passing) :
    Passing.ofText? passing.text = some passing := by
  cases passing <;> rfl

/-- A slot is taken out of its value. -/
@[simp]
theorem Slot.ofValue?_toValue
    (slot : Slot) :
    Slot.ofValue? slot.toValue = some slot := by
  simp [Slot.ofValue?, Slot.toValue, Value.record?, Value.extendByKey?, Slot.members,
    memberOf, Slot.Draft.finish, Passing.ofValue?, Value.boolean?]

/-- A signature is taken out of its members. -/
@[simp]
theorem Signature.ofValue?_valueMembers
    (signature : Signature) :
    Signature.ofValue? (.object signature.valueMembers) = some signature := by
  obtain ⟨identifier, result, parameters⟩ := signature
  have parametersTaken :
      Value.list? Slot.ofValue? (.array (parameters.map Slot.toValue)) =
        some parameters :=
    Value.list?_array fun slot _ => slot.ofValue?_toValue
  have resultTaken :
      Value.nullable? Slot.ofValue? (.ofOption Slot.toValue result) =
        some result := by
    cases result with
    | none =>
        rfl
    | some slot =>
        have taken := slot.ofValue?_toValue
        simp only [Slot.toValue] at taken
        simp [Value.ofOption, Slot.toValue, Value.nullable?, taken]
  simp [Signature.ofValue?, Signature.valueMembers, Value.record?, Value.extendByKey?,
    Signature.members, memberOf, Signature.Draft.finish, parametersTaken, resultTaken]

/-- A template argument is taken out of its value. -/
@[simp]
theorem TemplateArgument.ofValue?_toValue
    (argument : TemplateArgument) :
    TemplateArgument.ofValue? argument.toValue = some argument := by
  simp [TemplateArgument.ofValue?, TemplateArgument.toValue, Value.record?,
    Value.extendByKey?, TemplateArgument.members, memberOf,
    TemplateArgument.Draft.finish, Value.boolean?]

/-- A body is taken out of its members under its own kind. -/
theorem Body.ofValue?_valueMembers
    (body : Body) :
    Body.ofValue? body.kind (.object body.valueMembers) = some body := by
  cases body with
  | scope =>
      rfl
  | type size =>
      simp [Body.ofValue?, Body.valueMembers, Body.kind, Value.record?,
        Value.extendByKey?, Body.sizeMember, memberOf, Body.Draft.blank]
  | record size base =>
      simp [Body.ofValue?, Body.valueMembers, Body.kind, Value.record?,
        Value.extendByKey?, Body.sizeMember, Body.baseMember, memberOf,
        Body.Draft.blank]
  | enumeration size =>
      simp [Body.ofValue?, Body.valueMembers, Body.kind, Value.record?,
        Value.extendByKey?, Body.sizeMember, memberOf, Body.Draft.blank]
  | enumerator value =>
      simp [Body.ofValue?, Body.valueMembers, Body.kind, Value.record?,
        Value.extendByKey?, Body.valueMember, memberOf, Body.Draft.blank]
  | field slot =>
      have taken := slot.ofValue?_toValue
      simp only [Slot.toValue] at taken
      simp [Body.ofValue?, Body.valueMembers, Body.kind, Slot.toValue, taken]
  | function signature =>
      simp [Body.ofValue?, Body.valueMembers, Body.kind]
  | method signature =>
      simp [Body.ofValue?, Body.valueMembers, Body.kind]
  | template =>
      rfl
  | instantiation size arguments =>
      have argumentsTaken :
          Value.list? TemplateArgument.ofValue?
              (.array (arguments.map TemplateArgument.toValue)) =
            some arguments :=
        Value.list?_array fun argument _ => argument.ofValue?_toValue
      simp [Body.ofValue?, Body.valueMembers, Body.kind, Value.record?,
        Value.extendByKey?, Body.sizeMember, Body.argumentsMember, memberOf,
        Body.Draft.blank, argumentsTaken]

section Plain

variable {depth : Nat}

theorem Json.Value.Plain.ofNat
    {number : Nat}
    (exact : number < UInt64.size) :
    (Value.ofNat number).Plain depth := by
  refine .integer ⟨?_, ?_⟩
  · exact Int.le_trans (by decide) (Int.natCast_nonneg number)
  · exact_mod_cast exact

theorem Json.Value.Plain.word32
    (number : UInt32) :
    (Value.ofNat number.toNat).Plain depth :=
  .ofNat (Nat.lt_trans number.toNat_lt (by decide))

theorem Json.Value.Plain.word64
    (number : UInt64) :
    (Value.ofNat number.toNat).Plain depth :=
  .ofNat number.toNat_lt

theorem Slot.plain_toValue
    (slot : Slot) :
    slot.toValue.Plain (depth + 1) := by
  apply Value.Plain.object
  simp only [List.forall_mem_cons, List.not_mem_nil, false_imp_iff, implies_true,
    and_true]
  exact ⟨.word64 _, .word64 _, .text _, .boolean _, .word32 _, .word32 _⟩

theorem TemplateArgument.plain_toValue
    (argument : TemplateArgument) :
    argument.toValue.Plain (depth + 1) := by
  apply Value.Plain.object
  simp only [List.forall_mem_cons, List.not_mem_nil, false_imp_iff, implies_true,
    and_true]
  exact ⟨.word64 _, .boolean _⟩

theorem Signature.plain_valueMembers
    (signature : Signature) :
    ∀ entry ∈ signature.valueMembers, entry.2.Plain (depth + 2) := by
  simp only [Signature.valueMembers, List.forall_mem_cons, List.not_mem_nil,
    false_imp_iff, implies_true, and_true]
  refine ⟨.word64 _, ?_, ?_⟩
  · cases signature.result with
    | none =>
        exact .null
    | some slot =>
        exact slot.plain_toValue
  · apply Value.Plain.array
    intro item member
    obtain ⟨slot, -, rfl⟩ := List.mem_map.mp member
    exact slot.plain_toValue

/-- The members of a body are nested twice at most. -/
theorem Body.plain_valueMembers
    (body : Body) :
    ∀ entry ∈ body.valueMembers, entry.2.Plain (depth + 2) := by
  cases body with
  | scope =>
      intro entry member
      cases member
  | type size =>
      simpa [Body.valueMembers] using Value.Plain.word32 size
  | record size base =>
      simpa [Body.valueMembers] using
        ⟨Value.Plain.word32 size, Value.Plain.word64 base⟩
  | enumeration size =>
      simpa [Body.valueMembers] using Value.Plain.word32 size
  | enumerator value =>
      have isExact : Number.IsExact value.toInt :=
        ⟨value.minValue_le_toInt, Int.lt_trans value.toInt_lt (by decide)⟩
      simpa [Body.valueMembers] using Value.Plain.integer isExact
  | field slot =>
      have plain : slot.toValue.Plain (depth + 3) :=
        slot.plain_toValue
      cases plain with
      | object membersPlain =>
          exact membersPlain
  | function signature =>
      exact signature.plain_valueMembers
  | method signature =>
      exact signature.plain_valueMembers
  | template =>
      intro entry member
      cases member
  | instantiation size arguments =>
      have argumentsPlain :
          (Value.array (arguments.map TemplateArgument.toValue)).Plain
            (depth + 2) := by
        apply Value.Plain.array
        intro item member
        obtain ⟨argument, -, rfl⟩ := List.mem_map.mp member
        exact argument.plain_toValue
      simpa [Body.valueMembers] using ⟨Value.Plain.word32 size, argumentsPlain⟩

end Plain

/-- No member of a body is called like the name of its kind. -/
theorem Body.key_ne_kind
    (body : Body) :
    ∀ entry ∈ body.valueMembers, entry.1 ≠ "kind" := by
  cases body <;>
    simp [Body.valueMembers, Slot.toValue, Signature.valueMembers]

section Reads

variable {nesting : Nat}

/-- A body is read from its written form. -/
theorem Body.reads
    (body : Body) :
    ReadsAt (nesting + 3) Body.read body.toValue body := by
  intro layout depth blanks rest areBlank ends
  have read : tagged "kind" Kind.ofPayloadTag? (nesting + 3) _ = _ :=
    readsAt_tagged body.kind.ofPayloadTag?_payloadTag body.key_ne_kind
      body.plain_valueMembers layout depth blanks rest areBlank ends
  rw [Body.read, Body.toValue, bind_of_ok read]
  simp only [body.ofValue?_valueMembers]
  rfl

/-- A member of a draft that is read where the draft lacks it is taken. -/
theorem takesMember_readMemberOf
    {σ α : Type}
    {members : List (Member σ (Reader σ))}
    {key : String}
    {isOptional : Bool}
    {current : σ → Option α}
    {keep : σ → α → σ}
    {reader : Reader α}
    {draft : σ}
    {value : Value}
    {found : α}
    (reads : ReadsAt nesting reader value found)
    (unset : current draft = none)
    (listed :
      (members.find? fun member => member.key = key) =
        some (readMemberOf key isOptional current keep reader)) :
    TakesMember nesting (extendByKey members) draft (key, value)
      (keep draft found) := by
  refine takesMember_extendByKey listed ?_ ?_
  · simp [readMemberOf, unset]
  · intro layout depth blanks rest areBlank ends
    simp only [readMemberOf]
    rw [bind_of_ok (reads layout depth blanks rest areBlank ends)]
    rfl

/-- A member that may be left out is taken if it stands there, and skipped otherwise. -/
theorem takesMembers_optionalMember
    {σ α : Type}
    {members : List (Member σ (Reader σ))}
    {key : String}
    {isOptional : Bool}
    {current : σ → Option (Option α)}
    {keep : σ → Option α → σ}
    {reader : Reader α}
    (form : α → Value)
    (next : Option α → σ)
    (reads : ∀ found, ReadsAt nesting reader (form found) found)
    (notNull : ∀ found, form found ≠ .null)
    (unset : current (next none) = none)
    (kept : ∀ found, keep (next none) (some found) = next (some found))
    (listed :
      (members.find? fun member => member.key = key) =
        some (readMemberOf key isOptional current keep (nullable reader)))
    (content : Option α) :
    TakesMembers nesting (extendByKey members) (next none)
      (optionalMember key (content.map form)) (next content) := by
  cases content with
  | none =>
      exact .nil _
  | some found =>
      have taken :=
        takesMember_readMemberOf (readsAt_nullable (reads found) (notNull found))
          unset listed
      rw [kept found] at taken
      exact .cons taken (.nil _)

/-- A name is read from its written form. -/
theorem Name.reads
    (name : Name) :
    ReadsAt (nesting + 1) Name.read name.toValue name := by
  have takes :
      TakesMembers nesting (extendByKey Name.members) ⟨none, none⟩
        [("hash", .ofNat name.hash.toNat), ("text", .text name.text)]
        ⟨some name.hash, some name.text⟩ :=
    .cons (takesMember_readMemberOf (readsAt_word64 name.hash) rfl rfl)
      (.cons (takesMember_readMemberOf (readsAt_text name.text) rfl rfl) (.nil _))
  exact readsAt_record takes rfl

/-- A record is read from its written form. -/
theorem SymbolRecord.reads
    (entry : SymbolRecord) :
    ReadsAt (nesting + 4) SymbolRecord.read entry.toValue entry := by
  obtain ⟨tag, name, parent, identifier, body⟩ := entry
  have front :
      TakesMembers (nesting + 3) (extendByKey SymbolRecord.members)
        ⟨none, none, none, none, none⟩
        [ ("kind", .ofNat tag.toNat),
          ("name", .ofNat name.toNat),
          ("parent", .ofNat parent.toNat) ]
        ⟨some tag, some name, some parent, none, none⟩ :=
    .cons (takesMember_readMemberOf (readsAt_word16 tag) rfl rfl)
      (.cons (takesMember_readMemberOf (readsAt_word64 name) rfl rfl)
        (.cons (takesMember_readMemberOf (readsAt_word64 parent) rfl rfl) (.nil _)))
  have optional :
      TakesMembers (nesting + 3) (extendByKey SymbolRecord.members)
        ⟨some tag, some name, some parent, none, none⟩
        (optionalMember "unique_id"
          (identifier.map fun identifier => .ofNat identifier.toNat))
        ⟨some tag, some name, some parent, identifier.map some, none⟩ :=
    takesMembers_optionalMember
      (fun found => .ofNat found.toNat)
      (fun found =>
        SymbolRecord.Draft.mk (some tag) (some name) (some parent) (found.map some) none)
      readsAt_word64 (fun _ => Value.noConfusion) rfl (fun _ => rfl) rfl identifier
  have last :
      TakesMembers (nesting + 3) (extendByKey SymbolRecord.members)
        ⟨some tag, some name, some parent, identifier.map some, none⟩
        [("payload", body.toValue)]
        ⟨some tag, some name, some parent, identifier.map some, some body⟩ :=
    .cons (takesMember_readMemberOf body.reads rfl rfl) (.nil _)
  have finishes :
      SymbolRecord.Draft.finish
          ⟨some tag, some name, some parent, identifier.map some, some body⟩ =
        some ⟨tag, name, parent, identifier, body⟩ := by
    cases identifier <;> rfl
  exact readsAt_record ((front.append optional).append last) finishes

/-- A snapshot is read from its written form. -/
theorem Snapshot.reads
    (snapshot : Snapshot) :
    ReadsAt (nesting + 6) Snapshot.read snapshot.toValue snapshot := by
  obtain ⟨version, source, hasBaseTypes, names, records⟩ := snapshot
  have front :
      TakesMembers (nesting + 5) (extendByKey Snapshot.members)
        ⟨none, none, none, none, none⟩
        [("version", .ofNat version.toNat)]
        ⟨some version, none, none, none, none⟩ :=
    .cons (takesMember_readMemberOf (readsAt_word16 version) rfl rfl) (.nil _)
  have optional :
      TakesMembers (nesting + 5) (extendByKey Snapshot.members)
        ⟨some version, none, none, none, none⟩
        (optionalMember "source" (source.map .text))
        ⟨some version, source.map some, none, none, none⟩ :=
    takesMembers_optionalMember
      .text
      (fun found => Snapshot.Draft.mk (some version) (found.map some) none none none)
      readsAt_text (fun _ => Value.noConfusion) rfl (fun _ => rfl) rfl source
  have namesRead :
      ReadsAt (nesting + 5) (Reader.list Name.read)
        (.array (names.map Name.toValue)) names :=
    readsAt_list fun name _ => name.reads
  have recordsRead :
      ReadsAt (nesting + 5) (Reader.list SymbolRecord.read)
        (.array (records.map SymbolRecord.toValue)) records :=
    readsAt_list fun entry _ => entry.reads
  have last :
      TakesMembers (nesting + 5) (extendByKey Snapshot.members)
        ⟨some version, source.map some, none, none, none⟩
        [ ("base_types", .boolean hasBaseTypes),
          ("names", .array (names.map Name.toValue)),
          ("primitives", .array (records.map SymbolRecord.toValue)) ]
        ⟨some version, source.map some, some hasBaseTypes, some names,
          some records⟩ :=
    .cons (takesMember_readMemberOf (readsAt_boolean hasBaseTypes) rfl rfl)
      (.cons (takesMember_readMemberOf namesRead rfl rfl)
        (.cons (takesMember_readMemberOf recordsRead rfl rfl) (.nil _)))
  have finishes :
      Snapshot.Draft.finish
          ⟨some version, source.map some, some hasBaseTypes, some names,
            some records⟩ =
        some ⟨version, source, hasBaseTypes, names, records⟩ := by
    cases source <;> rfl
  exact readsAt_record ((front.append optional).append last) finishes

end Reads

namespace Snapshot

/-- A document that ends in blanks at most is read as the snapshot written there. -/
theorem readDocument_write
    (snapshot : Snapshot)
    (layout : Layout)
    {blanks : Bytes}
    (areBlank : AreBlank blanks) :
    readDocument Snapshot.read (snapshot.toValue.write layout 0 ++ blanks) =
      .ok snapshot := by
  have ends : Number.EndsBefore blanks := by
    have nothingEnds : Number.EndsBefore [] :=
      trivial
    have ends := endsBefore_append areBlank nothingEnds
    rwa [List.append_nil] at ends
  have read : Snapshot.read nestingLimit _ = _ :=
    snapshot.reads layout 0 [] blanks areBlank_nil ends
  have skipped : skipBlanks blanks = [] := by
    have skipped := skipBlanks_append areBlank []
    rwa [List.append_nil] at skipped
  rw [List.nil_append] at read
  rw [readDocument, read]
  simp only [skipped, List.isEmpty_nil, ↓reduceIte]

/-- The compact document of a snapshot holds it. -/
theorem ofDocument_compactDocument
    (snapshot : Snapshot) :
    ofDocument snapshot.compactDocument = .ok snapshot := by
  have read := snapshot.readDocument_write .compact areBlank_nil
  rw [List.append_nil] at read
  rw [ofDocument, compactDocument, Value.compact, read]

/-- The indented document of a snapshot holds it. -/
theorem ofDocument_indentedDocument
    (snapshot : Snapshot) :
    ofDocument snapshot.indentedDocument = .ok snapshot := by
  have lineBlank : AreBlank [0x0A] := by
    intro byte member
    rw [List.mem_singleton.mp member]
    decide
  rw [ofDocument, indentedDocument, Value.indented,
    snapshot.readDocument_write .indented lineBlank]

/-- The compact document of the snapshot that a document holds. -/
def recompact
    (document : Bytes) :
    Except Error Bytes :=
  (ofDocument document).map compactDocument

/-- What was written without blanks is written the same again. -/
theorem recompact_compactDocument
    (snapshot : Snapshot) :
    recompact snapshot.compactDocument = .ok snapshot.compactDocument := by
  rw [recompact, ofDocument_compactDocument]
  rfl

/--
Both documents of a snapshot hold it, whatever it says, so that reading any document and
writing it without blanks comes to rest at once.
-/
theorem documents_lossless :
    (∀ snapshot : Snapshot,
        ofDocument snapshot.compactDocument = .ok snapshot ∧
          ofDocument snapshot.indentedDocument = .ok snapshot) ∧
      ∀ document, (recompact document).bind recompact = recompact document := by
  refine ⟨?held, ?atRest⟩
  case held =>
    intro snapshot
    exact ⟨snapshot.ofDocument_compactDocument, snapshot.ofDocument_indentedDocument⟩
  case atRest =>
    intro document
    cases holds : ofDocument document with
    | error error =>
        rw [recompact, holds]
        rfl
    | ok snapshot =>
        have compacted : recompact document = .ok snapshot.compactDocument := by
          rw [recompact, holds]
          rfl
        rw [compacted]
        exact snapshot.recompact_compactDocument

end Snapshot

end SymbolDatabase
