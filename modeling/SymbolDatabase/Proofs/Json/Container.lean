import SymbolDatabase.Json.Printer
import SymbolDatabase.Json.Sequence
import SymbolDatabase.Proofs.Json.Scalar

namespace SymbolDatabase

/-!
# Written containers read back

An array and an object are written alike: entries separated by commas, with blanks
before each entry and before the end.  Reading repeats a step for as long as another
entry begins.  This module shows once that such a walk over the written entries ends
right before the closing byte, for any step that takes each entry.
-/

namespace Json

/-- Whether all bytes may stand between tokens. -/
def AreBlank
    (bytes : Bytes) :
    Prop :=
  ∀ byte ∈ bytes, Reader.isBlank byte = true

theorem areBlank_nil :
    AreBlank [] := by
  intro byte member
  cases member

theorem areBlank_lineBreak
    (layout : Layout)
    (depth : Nat) :
    AreBlank (layout.lineBreak depth) := by
  intro byte member
  cases layout with
  | compact =>
      cases member
  | indented =>
      rcases List.mem_cons.mp member with rfl | isSpace
      · decide
      · rw [(List.mem_replicate.mp isSpace).2]
        decide

/-- A blank ends a number. -/
theorem endsBefore_of_isBlank
    {byte : UInt8}
    (blank : Reader.isBlank byte = true)
    (rest : Bytes) :
    Number.EndsBefore (byte :: rest) := by
  simp only [Reader.isBlank, Bool.or_eq_true, beq_iff_eq] at blank
  rcases blank with ((rfl | rfl) | rfl) | rfl <;>
    exact ⟨by decide, by decide, by decide⟩

/-- Blanks before what ends a number end it as well. -/
theorem endsBefore_append
    {blanks rest : Bytes}
    (areBlank : AreBlank blanks)
    (ends : Number.EndsBefore rest) :
    Number.EndsBefore (blanks ++ rest) := by
  cases blanks with
  | nil =>
      exact ends
  | cons byte blanks =>
      exact endsBefore_of_isBlank (areBlank byte (by simp)) (blanks ++ rest)

/-- Entries behind the first one, each after a comma and blanks. -/
def following
    (blanks : Bytes) :
    List Bytes → Bytes
  | [] =>
      []
  | form :: forms =>
      ','.toUInt8 :: (blanks ++ (form ++ following blanks forms))

/-- There are at least as many bytes as entries. -/
theorem length_le_length_following
    (blanks : Bytes)
    (forms : List Bytes) :
    forms.length ≤ (following blanks forms).length := by
  induction forms with
  | nil =>
      exact Nat.le_refl 0
  | cons form forms inductionHypothesis =>
      simp only [following, List.length_cons, List.length_append]
      omega

/-- What stands between the opening and the closing byte of a container. -/
def Layout.enclose
    (layout : Layout)
    (depth : Nat) :
    List Bytes → Bytes
  | [] =>
      []
  | first :: rest =>
      layout.lineBreak (depth + 1) ++
        (first ++
          (following (layout.lineBreak (depth + 1)) rest ++
            layout.lineBreak depth))

namespace Value

/-- The written form of a member. -/
def memberForm
    (layout : Layout)
    (depth : Nat)
    (entry : String × Value) :
    Bytes :=
  Text.write entry.1 ++ (layout.colon ++ entry.2.write layout depth)

theorem writeItems_eq
    (layout : Layout)
    (depth : Nat)
    (items : List Value) :
    writeItems layout depth items =
      following (layout.lineBreak (depth + 1))
        (items.map (write layout (depth + 1))) := by
  induction items with
  | nil =>
      rfl
  | cons item rest inductionHypothesis =>
      simp [writeItems, following, inductionHypothesis]

theorem writeMembers_eq
    (layout : Layout)
    (depth : Nat)
    (members : List (String × Value)) :
    writeMembers layout depth members =
      following (layout.lineBreak (depth + 1))
        (members.map (memberForm layout (depth + 1))) := by
  induction members with
  | nil =>
      rfl
  | cons entry rest inductionHypothesis =>
      obtain ⟨name, value⟩ := entry
      simp [writeMembers, following, memberForm, inductionHypothesis]

/-- An array encloses the written forms of its items. -/
theorem write_array
    (layout : Layout)
    (depth : Nat)
    (items : List Value) :
    write layout depth (.array items) =
      '['.toUInt8 ::
        (layout.enclose depth (items.map (write layout (depth + 1))) ++
          [']'.toUInt8]) := by
  cases items with
  | nil =>
      simp [write, Layout.enclose]
  | cons first rest =>
      simp [write, Layout.enclose, writeItems_eq]

/-- An object encloses the written forms of its members. -/
theorem write_object
    (layout : Layout)
    (depth : Nat)
    (members : List (String × Value)) :
    write layout depth (.object members) =
      '{'.toUInt8 ::
        (layout.enclose depth (members.map (memberForm layout (depth + 1))) ++
          ['}'.toUInt8]) := by
  cases members with
  | nil =>
      simp [write, Layout.enclose]
  | cons first rest =>
      simp [write, Layout.enclose, writeMembers_eq, memberForm]

end Value

namespace Reader

/-- A reader that succeeds hands over to the next one. -/
theorem bind_of_ok
    {α β : Type}
    {reader : Reader α}
    {nesting : Nat}
    {input rest : Bytes}
    {result : α}
    (succeeds : reader nesting input = .ok (result, rest))
    (next : α → Reader β) :
    (reader >>= next) nesting input = next result nesting rest := by
  rw [bind_eq, succeeds]

theorem skipBlanks_append
    {blanks : Bytes}
    (areBlank : AreBlank blanks)
    (rest : Bytes) :
    skipBlanks (blanks ++ rest) = skipBlanks rest :=
  List.dropWhile_append_of_pos areBlank

/-- Looking passes over blanks. -/
theorem look_append
    {blanks : Bytes}
    (areBlank : AreBlank blanks)
    {byte : UInt8}
    (solid : isBlank byte = false)
    (nesting : Nat)
    (rest : Bytes) :
    look nesting (blanks ++ byte :: rest) = .ok (byte, byte :: rest) := by
  have stopped : skipBlanks (byte :: rest) = byte :: rest := by
    simp [skipBlanks, solid]
  simp only [look, skipBlanks_append areBlank, stopped]

/-- Looking at a byte that is no blank answers it. -/
theorem look_cons
    {byte : UInt8}
    (solid : isBlank byte = false)
    (nesting : Nat)
    (rest : Bytes) :
    look nesting (byte :: rest) = .ok (byte, byte :: rest) :=
  look_append areBlank_nil solid nesting rest

/-- How the end of a container and the beginning of another entry are told apart. -/
structure Delimits
    (more : Bool → Reader Bool)
    (closer : UInt8)
    (begins : UInt8 → Prop) :
    Prop where
  closerEnds :
    ∀ rest, Number.EndsBefore (closer :: rest)
  atEnd :
    ∀ isFirst nesting blanks rest,
      AreBlank blanks →
        more isFirst nesting (blanks ++ closer :: rest) =
          .ok (false, closer :: rest)
  atFirst :
    ∀ nesting blanks byte rest,
      AreBlank blanks →
        begins byte →
          more true nesting (blanks ++ byte :: rest) = .ok (true, byte :: rest)
  atLater :
    ∀ nesting blanks byte rest,
      AreBlank blanks →
        begins byte →
          more false nesting (','.toUInt8 :: (blanks ++ byte :: rest)) =
            .ok (true, byte :: rest)

/-- An item begins with any solid byte that does not close the array. -/
theorem delimits_hasItem :
    Delimits hasItem ']'.toUInt8
      (fun byte => isBlank byte = false ∧ byte ≠ ']'.toUInt8) where
  closerEnds _ :=
    ⟨by decide, by decide, by decide⟩
  atEnd isFirst nesting blanks rest areBlank := by
    have solid : isBlank ']'.toUInt8 = false := by
      decide
    rw [hasItem, bind_of_ok (look_append areBlank solid nesting rest), if_pos rfl]
    rfl
  atFirst nesting blanks byte rest areBlank begins := by
    rw [hasItem, bind_of_ok (look_append areBlank begins.1 nesting rest),
      if_neg begins.2]
    rfl
  atLater nesting blanks byte rest areBlank begins := by
    have solid : isBlank ','.toUInt8 = false := by
      decide
    have noEnd : ','.toUInt8 ≠ ']'.toUInt8 := by
      decide
    have advanced :
        advance nesting (','.toUInt8 :: (blanks ++ byte :: rest)) =
          .ok ((), blanks ++ byte :: rest) :=
      rfl
    rw [hasItem, bind_of_ok (look_cons solid nesting _), if_neg noEnd,
      if_neg Bool.false_ne_true, if_pos rfl, bind_of_ok advanced,
      bind_of_ok (look_append areBlank begins.1 nesting rest), if_neg begins.2]
    rfl

/-- A member begins with the quote of its name. -/
theorem delimits_hasMember :
    Delimits hasMember '}'.toUInt8 (fun byte => byte = '"'.toUInt8) where
  closerEnds _ :=
    ⟨by decide, by decide, by decide⟩
  atEnd isFirst nesting blanks rest areBlank := by
    have solid : isBlank '}'.toUInt8 = false := by
      decide
    rw [hasMember, bind_of_ok (look_append areBlank solid nesting rest), if_pos rfl]
    rfl
  atFirst nesting blanks byte rest areBlank begins := by
    subst begins
    have solid : isBlank '"'.toUInt8 = false := by
      decide
    have noEnd : '"'.toUInt8 ≠ '}'.toUInt8 := by
      decide
    rw [hasMember, bind_of_ok (look_append areBlank solid nesting rest),
      if_neg noEnd, if_pos rfl, if_pos rfl]
    rfl
  atLater nesting blanks byte rest areBlank begins := by
    subst begins
    have solid : isBlank ','.toUInt8 = false := by
      decide
    have quoteSolid : isBlank '"'.toUInt8 = false := by
      decide
    have noEnd : ','.toUInt8 ≠ '}'.toUInt8 := by
      decide
    have advanced :
        advance nesting (','.toUInt8 :: (blanks ++ '"'.toUInt8 :: rest)) =
          .ok ((), blanks ++ '"'.toUInt8 :: rest) :=
      rfl
    rw [hasMember, bind_of_ok (look_cons solid nesting _), if_neg noEnd,
      if_neg Bool.false_ne_true, if_pos rfl, bind_of_ok advanced,
      bind_of_ok (look_append areBlank quoteSolid nesting rest), if_pos rfl]
    rfl

/-- A step takes written entries one after another, each up to where it ends. -/
inductive Walks
    {σ : Type}
    (nesting : Nat)
    (step : σ → Reader σ) :
    σ → List Bytes → σ → Prop where
  | nil
      (state : σ) :
      Walks nesting step state [] state
  | cons
      {state next final : σ}
      {form : Bytes}
      {forms : List Bytes} :
      (∀ rest,
        Number.EndsBefore rest →
          step state nesting (form ++ rest) = .ok (next, rest)) →
      Walks nesting step next forms final →
      Walks nesting step state (form :: forms) final

section Walk

variable
  {more : Bool → Reader Bool}
  {closer : UInt8}
  {begins : UInt8 → Prop}
  {σ : Type}
  {nesting : Nat}
  {step : σ → Reader σ}
  {state final : σ}
  {forms : List Bytes}
  {blanks ending : Bytes}

/-- What follows an entry ends a number. -/
theorem endsBefore_following
    (delimits : Delimits more closer begins)
    (endingBlank : AreBlank ending)
    (blanks : Bytes)
    (forms : List Bytes)
    (rest : Bytes) :
    Number.EndsBefore
      (following blanks forms ++ (ending ++ closer :: rest)) := by
  cases forms with
  | nil =>
      rw [following, List.nil_append]
      exact endsBefore_append endingBlank (delimits.closerEnds rest)
  | cons form forms =>
      exact ⟨by decide, by decide, by decide⟩

/-- Further entries are taken up to the end of the container. -/
theorem repeatWhile_following
    (delimits : Delimits more closer begins)
    (areBlank : AreBlank blanks)
    (endingBlank : AreBlank ending)
    (walks : Walks nesting step state forms final)
    (begin :
      ∀ form ∈ forms, ∃ byte after, form = byte :: after ∧ begins byte)
    {limit : Nat}
    (enough : forms.length ≤ limit)
    (rest : Bytes) :
    repeatWhile more step (limit + 1) false state nesting
        (following blanks forms ++ (ending ++ closer :: rest)) =
      .ok (final, closer :: rest) := by
  induction walks generalizing limit with
  | nil state =>
      have ended := delimits.atEnd false nesting ending rest endingBlank
      rw [following, List.nil_append, repeatWhile, bind_of_ok ended,
        if_neg Bool.false_ne_true]
      rfl
  | @cons state next final form forms taken _ inductionHypothesis =>
      obtain ⟨byte, after, rfl, beginsHere⟩ := begin form (by simp)
      have counted : forms.length + 1 ≤ limit := by
        simpa using enough
      obtain ⟨spare, rfl⟩ := Nat.exists_eq_add_of_le' counted
      have fewer : forms.length ≤ spare + forms.length :=
        Nat.le_add_left _ _
      have another :=
        delimits.atLater nesting blanks byte
          (after ++ (following blanks forms ++ (ending ++ closer :: rest)))
          areBlank beginsHere
      have step :=
        taken _ (endsBefore_following delimits endingBlank blanks forms rest)
      have later :=
        inductionHypothesis (fun form member => begin form (by simp [member])) fewer
      simp only [List.cons_append] at step
      simp only [following, List.cons_append, List.append_assoc]
      rw [repeatWhile, bind_of_ok another, if_pos rfl, bind_of_ok step]
      exact later

/-- All entries of a written container are taken, up to its closing byte. -/
theorem collect_enclose
    (delimits : Delimits more closer begins)
    (walks : Walks nesting step state forms final)
    (begin :
      ∀ form ∈ forms, ∃ byte after, form = byte :: after ∧ begins byte)
    (layout : Layout)
    (depth : Nat)
    (rest : Bytes) :
    collect more step true state nesting
        (layout.enclose depth forms ++ closer :: rest) =
      .ok (final, closer :: rest) := by
  have lineBlank := areBlank_lineBreak layout (depth + 1)
  have endingBlank := areBlank_lineBreak layout depth
  unfold collect
  cases walks with
  | nil =>
      have ended := delimits.atEnd true nesting [] rest areBlank_nil
      rw [List.nil_append] at ended
      rw [Layout.enclose, List.nil_append, repeatWhile, bind_of_ok ended,
        if_neg Bool.false_ne_true]
      rfl
  | @cons _ next _ form forms taken walks =>
      obtain ⟨byte, after, rfl, beginsHere⟩ := begin form (by simp)
      let blanks := layout.lineBreak (depth + 1)
      let ending := layout.lineBreak depth
      let tail := following blanks forms ++ (ending ++ closer :: rest)
      have another :=
        delimits.atFirst nesting blanks byte (after ++ tail) lineBlank beginsHere
      have step :=
        taken tail (endsBefore_following delimits endingBlank blanks forms rest)
      have input :
          layout.enclose depth ((byte :: after) :: forms) ++ closer :: rest =
            blanks ++ byte :: (after ++ tail) := by
        simp [Layout.enclose, blanks, tail, ending]
      have enough :
          forms.length + 1 ≤ (blanks ++ byte :: (after ++ tail)).length := by
        have bytesEnough := length_le_length_following blanks forms
        simp only [tail, List.length_append, List.length_cons]
        omega
      obtain ⟨spare, counted⟩ := Nat.exists_eq_add_of_le' enough
      have later :=
        repeatWhile_following delimits lineBlank endingBlank walks
          (fun form member => begin form (by simp [member]))
          (Nat.le_add_left forms.length spare) rest
      simp only [List.cons_append] at step
      rw [input, counted, repeatWhile, bind_of_ok another, if_pos rfl,
        bind_of_ok step]
      exact later

end Walk

end Reader

end Json

end SymbolDatabase
