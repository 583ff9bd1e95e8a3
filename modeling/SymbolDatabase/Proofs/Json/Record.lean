import SymbolDatabase.Json.Record
import SymbolDatabase.Proofs.Json.Value

namespace SymbolDatabase

/-!
# Records read back

Scalars, lists and records are read from what is written for them.  A record is read
from any object whose members each find their place in the draft, and whose finished
draft is complete.
-/

namespace Json

namespace Reader

variable {nesting : Nat}

/-- A number below a bound is read from what is written for it. -/
theorem readsAt_natBelow
    {bound number : Nat}
    (below : number < bound)
    (exact : number < UInt64.size) :
    ReadsAt nesting (natBelow bound) (.ofNat number) number := by
  intro layout depth blanks rest areBlank ends
  have isExact : Number.IsExact (number : Int) := by
    constructor
    · exact Int.le_trans (by decide) (Int.natCast_nonneg number)
    · exact_mod_cast exact
  obtain ⟨first, more, written, isNumeric⟩ := Number.write_eq_cons number
  have looked :=
    look_write (show (Value.ofNat number).write layout depth = _ from written) nesting
      areBlank rest
  have taken : Value.natBelow? bound (.integer number) = some number := by
    simp [Value.natBelow?, below]
  rw [natBelow, bind_of_ok looked, if_pos isNumeric, Value.ofNat, Value.write,
    bind_of_ok (Number.read_write isExact nesting ends), taken]
  rfl

theorem readsAt_word16
    (number : UInt16) :
    ReadsAt nesting word16 (.ofNat number.toNat) number := by
  intro layout depth blanks rest areBlank ends
  have exact : number.toNat < UInt64.size :=
    Nat.lt_trans number.toNat_lt (by decide)
  have read : natBelow UInt16.size nesting _ = _ :=
    readsAt_natBelow number.toNat_lt exact layout depth blanks rest areBlank ends
  rw [word16, bind_of_ok read, UInt16.ofNat_toNat]
  rfl

theorem readsAt_word64
    (number : UInt64) :
    ReadsAt nesting word64 (.ofNat number.toNat) number := by
  intro layout depth blanks rest areBlank ends
  have read : natBelow UInt64.size nesting _ = _ :=
    readsAt_natBelow number.toNat_lt number.toNat_lt layout depth blanks rest
      areBlank ends
  rw [word64, bind_of_ok read, UInt64.ofNat_toNat]
  rfl

theorem readsAt_boolean
    (flag : Bool) :
    ReadsAt nesting boolean (.boolean flag) flag := by
  intro layout depth blanks rest areBlank _
  cases flag with
  | true =>
      have shape :
          (Value.boolean true).write layout depth = 't'.toUInt8 :: Bytes.ofText "rue" :=
        rfl
      rw [boolean, bind_of_ok (look_write shape nesting areBlank rest), if_pos rfl,
        Value.write, bind_of_ok (literal_append _ _ _)]
      rfl
  | false =>
      have shape :
          (Value.boolean false).write layout depth =
            'f'.toUInt8 :: Bytes.ofText "alse" :=
        rfl
      rw [boolean, bind_of_ok (look_write shape nesting areBlank rest),
        if_neg (by decide), if_pos rfl, Value.write, bind_of_ok (literal_append _ _ _)]
      rfl

theorem readsAt_text
    (content : String) :
    ReadsAt nesting text (.text content) content := by
  intro layout depth blanks rest areBlank _
  rw [text, bind_of_ok (look_write rfl nesting areBlank rest), if_pos rfl, Value.write]
  exact Text.read_write content nesting rest

/-- Something present is read where it might be null. -/
theorem readsAt_nullable
    {α : Type}
    {present : Reader α}
    {value : Value}
    {result : α}
    (reads : ReadsAt nesting present value result)
    (notNull : value ≠ .null) :
    ReadsAt nesting (nullable present) value (some result) := by
  intro layout depth blanks rest areBlank ends
  obtain ⟨byte, after, shape, -⟩ := value.write_begins layout depth
  have isOther : byte ≠ 'n'.toUInt8 := by
    rintro rfl
    exact Value.write_ne_of_ne_null notNull layout depth after shape
  have read := reads layout depth [] rest areBlank_nil ends
  rw [List.nil_append] at read
  rw [nullable, bind_of_ok (look_write shape nesting areBlank rest), if_neg isOther,
    bind_of_ok read]
  rfl

/-- A list is read if each of its items is. -/
theorem readsAt_list
    {α : Type}
    {item : Reader α}
    {form : α → Value}
    {entries : List α}
    (reads : ∀ entry ∈ entries, ReadsAt nesting item (form entry) entry) :
    ReadsAt (nesting + 1) (list item) (.array (entries.map form)) entries := by
  intro layout depth blanks rest areBlank _
  have looked :=
    look_write (Value.write_array layout depth (entries.map form)) (nesting + 1)
      areBlank rest
  rw [list, bind_of_ok looked, if_pos rfl]
  exact array_enclose reads id layout depth rest

section Records

variable
  {σ α : Type}
  {members : List (Member σ (Reader σ))}
  {draft next final blank : σ}
  {entries : List (String × Value)}

/-- A member that finds its place in the draft is taken. -/
theorem takesMember_extendByKey
    {name : String}
    {member : Member σ (Reader σ)}
    {value : Value}
    (found : (members.find? fun member => member.key = name) = some member)
    (unset : member.isSet draft = false)
    (reads : ReadsAt nesting (member.extend draft) value next) :
    TakesMember nesting (extendByKey members) draft (name, value) next := by
  intro layout depth rest ends
  obtain ⟨behindKey, behindColon, nameRead, colonRead, valueRead⟩ :=
    member_append reads name layout depth ends
  rw [extendByKey, bind_of_ok nameRead, found]
  simp only [unset]
  rw [if_neg Bool.false_ne_true, bind_of_ok colonRead]
  exact valueRead

/-- A record is read from members that complete its draft. -/
theorem readsAt_record
    {finish : σ → Option α}
    {result : α}
    (takes : TakesMembers nesting (extendByKey members) blank entries final)
    (finishes : finish final = some result) :
    ReadsAt (nesting + 1) (record members blank finish) (.object entries)
      result := by
  intro layout depth blanks rest areBlank _
  have inside :
      (do
          let draft ← collect hasMember (extendByKey members) true blank
          finished (finish draft) : Reader α)
          nesting
          (layout.enclose depth
              (entries.map (Value.memberForm layout (depth + 1))) ++
            '}'.toUInt8 :: rest) =
        .ok (result, '}'.toUInt8 :: rest) := by
    rw [bind_of_ok (takes.collect layout depth rest), finishes]
    rfl
  have looked :=
    look_write (Value.write_object layout depth entries) (nesting + 1) areBlank rest
  rw [record, bind_of_ok looked, if_neg (by decide), if_pos rfl]
  exact object_enclose inside id

end Records

section Tagged

variable
  {τ : Type}
  {tagKey : String}
  {ofText? : String → Option τ}

/-- How the members of a record with a tag are collected. -/
def collectTagged
    (tagKey : String)
    (ofText? : String → Option τ)
    (draft : Option τ × List (String × Value)) :
    Reader (Option τ × List (String × Value)) := do
  let name ← Text.read
  if name = tagKey then
    if draft.1.isSome then
      fail .mismatched
    else
      punctuation ':'
      let tag ← oneOf ofText?
      pure (some tag, draft.2)
  else
    punctuation ':'
    let member ← value
    pure (draft.1, (name, member) :: draft.2)

/-- A tag that was not found before is taken. -/
theorem takesMember_tag
    {name : String}
    {tag : τ}
    (stands : ofText? name = some tag)
    (taken : List (String × Value)) :
    TakesMember nesting (collectTagged tagKey ofText?) (none, taken)
      (tagKey, .text name) (some tag, taken) := by
  intro layout depth rest ends
  obtain ⟨behindKey, behindColon, nameRead, colonRead, tagRead⟩ :=
    member_append (readsAt_text name) tagKey layout depth ends
  have unset : ¬ ((none : Option τ), taken).1.isSome = true :=
    Bool.false_ne_true
  have oneRead : oneOf ofText? nesting behindColon = .ok (tag, rest) := by
    rw [oneOf, bind_of_ok tagRead, stands]
    rfl
  rw [collectTagged, bind_of_ok nameRead, if_pos rfl, if_neg unset,
    bind_of_ok colonRead, bind_of_ok oneRead]
  rfl

/-- Members other than the tag are collected in reverse. -/
theorem takesMembers_tagged
    {members : List (String × Value)}
    (others : ∀ entry ∈ members, entry.1 ≠ tagKey)
    (plain : ∀ entry ∈ members, entry.2.Plain nesting)
    (found : Option τ)
    (taken : List (String × Value)) :
    TakesMembers nesting (collectTagged tagKey ofText?) (found, taken) members
      (found, members.reverse ++ taken) := by
  induction members generalizing taken with
  | nil =>
      exact .nil (found, taken)
  | cons entry rest inductionHypothesis =>
      have later :=
        inductionHypothesis
          (fun other member => others other (by simp [member]))
          (fun other member => plain other (by simp [member]))
          (entry :: taken)
      rw [List.reverse_cons, List.append_assoc]
      refine .cons ?_ later
      intro layout depth after ends
      obtain ⟨behindKey, behindColon, nameRead, colonRead, valueRead⟩ :=
        member_append (readsAt_value (plain entry (by simp))) entry.1 layout depth ends
      rw [collectTagged, bind_of_ok nameRead, if_neg (others entry (by simp)),
        bind_of_ok colonRead, bind_of_ok valueRead]
      rfl

/-- A record with a tag is read as the tag and its other members. -/
theorem readsAt_tagged
    {name : String}
    {tag : τ}
    (stands : ofText? name = some tag)
    {members : List (String × Value)}
    (others : ∀ entry ∈ members, entry.1 ≠ tagKey)
    (plain : ∀ entry ∈ members, entry.2.Plain nesting) :
    ReadsAt (nesting + 1) (tagged tagKey ofText?)
      (.object ((tagKey, .text name) :: members)) (tag, .object members) := by
  intro layout depth blanks rest areBlank _
  have takes :=
    TakesMembers.cons (takesMember_tag stands [])
      (takesMembers_tagged others plain (some tag) [])
  have looked :=
    look_write (Value.write_object layout depth ((tagKey, .text name) :: members))
      (nesting + 1) areBlank rest
  have collected := takes.collect layout depth rest
  rw [tagged, bind_of_ok looked, if_neg (by decide), if_pos rfl]
  refine object_enclose ?inside id
  refine (bind_of_ok collected _).trans ?_
  simp only [List.append_nil, List.reverse_reverse]
  rfl

end Tagged

end Reader

end Json

end SymbolDatabase
