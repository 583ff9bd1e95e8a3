import SymbolDatabase.Proofs.Names.Refusal
import SymbolDatabase.Proofs.Restore

namespace SymbolDatabase

/-!
# Restoring a name and interning its text

A table is asked to bind texts, which it hashes itself, and stored names, which carry their
hash.  Both come down to the same binding, so a stored name is taken exactly if interning
its text answers that very name.  The empty text is the one exception: interned, it is the
absent name and is not bound, but restored with its own hash it is bound as any other text.
-/

namespace NameTable

/-- What a table can be asked to bind. -/
inductive Request where
  | intern (text : String)
  | internOptional (text : Option String)
  | restore (name : Name)
  deriving Repr, DecidableEq

namespace Request

/-- The answer to a request, with the table that results. -/
def answer
    (table : NameTable) :
    Request → Except Error (Name × NameTable)
  | .intern text =>
      table.intern text
  | .internOptional text =>
      table.internOptional text
  | .restore name =>
      table.restore name

/-- The table after a request.  A request that is refused leaves it as it is. -/
def apply
    (table : NameTable)
    (request : Request) :
    NameTable :=
  match request.answer table with
  | .ok (_, extended) =>
      extended
  | .error _ =>
      table

/-- The table that requests, one after another, make of the table without names. -/
def run
    (requests : List Request) :
    NameTable :=
  requests.foldl apply NameTable.empty

theorem run_concat
    (requests : List Request)
    (last : Request) :
    run (requests ++ [last]) = last.apply (run requests) := by
  simp [run]

/-- The text that a request asks to bind to its hash, if there is something to bind. -/
def text? : Request → Option String
  | .intern text | .internOptional (some text) =>
      if text = "" then none else some text
  | .internOptional none =>
      none
  | .restore name =>
      if name = Name.ofText name.text then some name.text else none

/-- Only a name that is restored asks to bind the empty text. -/
theorem text?_eq_some_empty_iff
    {request : Request} :
    request.text? = some "" ↔ request = .restore (Name.ofText "") := by
  cases request with
  | intern text =>
      by_cases isEmpty : text = "" <;> simp [text?, isEmpty]
  | internOptional text =>
      cases text with
      | none =>
          simp [text?]
      | some text =>
          by_cases isEmpty : text = "" <;> simp [text?, isEmpty]
  | restore name =>
      constructor
      · intro asked
        simp only [text?] at asked
        split at asked
        next isName =>
          rw [isName, Option.some.inj asked]
        next =>
          cases asked
      · intro isEmpty
        cases isEmpty
        rfl

end Request

/-! ## Names that are restored -/

variable {table extended : NameTable} {name answer : Name} {text : String}

/-- The name of a text is never the absent one, also where the text is empty. -/
theorem ofText_ne_absent
    (text : String) :
    Name.ofText text ≠ Name.absent := by
  intro same
  obtain rfl : text = "" :=
    congrArg Name.text same
  exact absurd same (by decide)

/-- A name that is not that of its text is refused, unless it is the absent name. -/
theorem restore_of_forged
    (present : name ≠ Name.absent)
    (forged : name ≠ Name.ofText name.text) :
    table.restore name =
      .error (.nameMismatch name.text name.hash (NameHash.ofText name.text)) := by
  have otherHash : NameHash.ofText name.text ≠ name.hash := by
    intro sameHash
    exact forged (by rw [Name.ofText, sameHash])
  rw [restore, if_neg present]
  exact if_neg otherHash

/--
In any table, a stored name is taken exactly if interning its text answers that name, and
the same table results.  Only the name of the empty text is left out.
-/
theorem restore_eq_ok_iff
    (notEmpty : name ≠ Name.ofText "") :
    table.restore name = .ok (answer, extended) ↔
      answer = name ∧ table.intern name.text = .ok (name, extended) := by
  by_cases isAbsent : name = Name.absent
  · subst isAbsent
    simp [restore, intern, Name.absent, eq_comm]
  by_cases isName : name = Name.ofText name.text
  · have isText : name.text ≠ "" := by
      intro isEmpty
      rw [isEmpty] at isName
      exact notEmpty isName
    have genuine : name.hash = NameHash.ofText name.text :=
      congrArg Name.hash isName
    rw [restore_eq_bind table genuine, intern, if_neg isText, ← genuine]
    constructor
    · intro bound
      obtain rfl : answer = name := (bind_eq_ok bound).1
      exact ⟨rfl, bound⟩
    · rintro ⟨rfl, bound⟩
      exact bound
  · rw [restore_of_forged isAbsent isName]
    constructor
    · intro restored
      cases restored
    · rintro ⟨-, interned⟩
      by_cases isEmpty : name.text = ""
      · rw [intern, if_pos isEmpty] at interned
        cases interned
        exact (isAbsent rfl).elim
      · have sameHash := (contains_of_intern isEmpty interned).1
        exact (isName (by rw [Name.ofText, ← sameHash])).elim

namespace WellFormed

/-- The name of a text, also of the empty one, is restored unless its hash is taken. -/
theorem restore_ofText_eq_ok_iff
    (wellFormed : table.WellFormed)
    (text : String) :
    table.restore (Name.ofText text) = .ok (answer, extended) ↔
      ¬ table.Refuses text ∧
        answer = Name.ofText text ∧
        extended = table.including (Name.ofText text) := by
  have restored :
      table.restore (Name.ofText text) = table.bind (NameHash.ofText text) text :=
    restore_eq_bind table rfl
  rw [restored]
  by_cases refuses : table.Refuses text
  · rw [wellFormed.bind_of_refuses refuses]
    exact ⟨nofun, fun accepted => (accepted.1 refuses).elim⟩
  · rw [wellFormed.bind_of_not_refuses refuses]
    simp [refuses, Name.ofText, eq_comm]

/-- A listed name is restored as it is. -/
theorem restore_of_mem
    (wellFormed : table.WellFormed)
    (listed : name ∈ table.names) :
    table.restore name = .ok (name, table) := by
  rw [restore_eq_bind table (wellFormed.hashGenuine name listed)]
  exact
    bind_of_find?_eq_some (wellFormed.hashPresent name listed)
      (find?_of_mem wellFormed.hashesNodup listed)

end WellFormed

/-! ## Requests one after another -/

/-- A request binds the text that it asks to bind, or nothing. -/
theorem apply_eq_bindEach
    (table : NameTable)
    (request : Request) :
    request.apply table = table.bindEach (request.text?.toList.map Name.ofText) := by
  have interning :
      ∀ text,
        (Request.intern text).apply table =
          table.bindEach ((Request.intern text).text?.toList.map Name.ofText) := by
    intro text
    by_cases isEmpty : text = ""
    · simp [Request.apply, Request.answer, Request.text?, bindEach, intern, isEmpty]
    · simp only [Request.apply, Request.answer, Request.text?, intern, isEmpty, ↓reduceIte]
      rfl
  cases request with
  | intern text =>
      exact interning text
  | internOptional text =>
      cases text with
      | none =>
          rfl
      | some text =>
          exact interning text
  | restore name =>
      by_cases isName : name = Name.ofText name.text
      · have asked : (Request.restore name).text? = some name.text :=
          if_pos isName
        have restored := restore_eq_bind table (congrArg Name.hash isName)
        simp only [Request.apply, Request.answer, restored, asked, Option.toList_some,
          List.map_cons, List.map_nil, ← isName]
        rfl
      · have asked : (Request.restore name).text? = none :=
          if_neg isName
        rw [asked]
        by_cases isAbsent : name = Name.absent
        · simp [Request.apply, Request.answer, restore, isAbsent, bindEach]
        · simp [Request.apply, Request.answer, restore_of_forged isAbsent isName, bindEach]

namespace WellFormed

/-- Binding a text lists its name behind all others, unless the text is refused. -/
theorem mem_names_bindEach_singleton
    (wellFormed : table.WellFormed)
    {other : String} :
    Name.ofText text ∈ (table.bindEach [Name.ofText other]).names ↔
      Name.ofText text ∈ table.names ∨ other = text ∧ ¬ table.Refuses text := by
  by_cases refuses : table.Refuses other
  · have unchanged : table.bindEach [Name.ofText other] = table := by
      simp only [bindEach, Name.ofText, wellFormed.bind_of_refuses refuses]
    rw [unchanged]
    constructor
    · exact .inl
    · rintro (listed | ⟨rfl, accepts⟩)
      · exact listed
      · exact (accepts refuses).elim
  · have extended :
        table.bindEach [Name.ofText other] = table.including (Name.ofText other) := by
      simp only [bindEach, Name.ofText, wellFormed.bind_of_not_refuses refuses]
    have sameName : Name.ofText text = Name.ofText other ↔ other = text := by
      rw [Name.ofText, Name.ofText, Name.mk.injEq]
      exact ⟨fun same => same.2.symm, fun same => by simp [same]⟩
    rw [extended, mem_names_including, sameName]
    constructor
    · rintro (listed | rfl)
      · exact .inl listed
      · exact .inr ⟨rfl, refuses⟩
    · rintro (listed | ⟨same, -⟩)
      · exact .inl listed
      · exact .inr same

/-- A request keeps a table well formed. -/
theorem apply
    (wellFormed : table.WellFormed)
    (request : Request) :
    (request.apply table).WellFormed := by
  rw [Request.apply]
  split
  next answered =>
    cases request with
    | intern =>
        exact wellFormed.intern answered
    | internOptional =>
        exact wellFormed.internOptional answered
    | restore =>
        exact wellFormed.restore answered
  next =>
    exact wellFormed

/-- A request lists no name but that of the text that it asks to bind. -/
theorem mem_names_apply
    (wellFormed : table.WellFormed)
    {request : Request} :
    Name.ofText text ∈ (request.apply table).names ↔
      Name.ofText text ∈ table.names ∨
        request.text? = some text ∧ ¬ table.Refuses text := by
  rw [apply_eq_bindEach]
  cases asked : request.text? with
  | none =>
      simp [bindEach]
  | some other =>
      rw [Option.some.injEq]
      exact wellFormed.mem_names_bindEach_singleton

/-- Requests lead to a well-formed table. -/
theorem run
    (requests : List Request) :
    (Request.run requests).WellFormed := by
  induction requests using List.reverseRecOn with
  | nil =>
      exact .empty
  | append_singleton front last inductionHypothesis =>
      rw [Request.run_concat]
      exact inductionHypothesis.apply last

end WellFormed

/-- A name is listed if some request asked to bind its text, and was not refused then. -/
theorem mem_names_run
    (requests : List Request) :
    Name.ofText text ∈ (Request.run requests).names ↔
      ∃ front request rest,
        requests = front ++ request :: rest ∧
          request.text? = some text ∧
          ¬ (Request.run front).Refuses text := by
  induction requests using List.reverseRecOn with
  | nil =>
      simp [Request.run, NameTable.empty]
  | append_singleton earlier last inductionHypothesis =>
      rw [Request.run_concat, (WellFormed.run earlier).mem_names_apply, inductionHypothesis]
      constructor
      · rintro (⟨front, request, rest, rfl, asked, accepts⟩ | ⟨asked, accepts⟩)
        · exact ⟨front, request, rest ++ [last], by simp, asked, accepts⟩
        · exact ⟨earlier, last, [], rfl, asked, accepts⟩
      · rintro ⟨front, request, rest, shape, asked, accepts⟩
        cases rest using List.reverseRecOn with
        | nil =>
            obtain ⟨rfl, sameLast⟩ := List.append_inj' shape rfl
            obtain rfl : last = request := List.singleton_inj.mp sameLast
            exact .inr ⟨asked, accepts⟩
        | append_singleton between final =>
            rw [← List.cons_append, ← List.append_assoc] at shape
            obtain ⟨rfl, -⟩ := List.append_inj' shape rfl
            exact .inl ⟨front, request, between, rfl, asked, accepts⟩

/--
Whatever a table was asked to bind before, a stored name is taken exactly if interning its
text answers that very name, and then both leave the same table.  The empty text is always
answered with the absent name, which is not listed; but its name, which has a hash of its
own, is taken where that hash is free, and is listed exactly if it was restored so.  Every
other listed name is what interning its text answers.
-/
theorem restore_agrees_with_intern
    (requests : List Request) :
    let table := Request.run requests
    (∀ name,
        name ≠ Name.ofText "" →
          ∀ answer extended,
            table.restore name = .ok (answer, extended) ↔
              answer = name ∧ table.intern name.text = .ok (name, extended)) ∧
      (table.intern "" = .ok (Name.absent, table) ∧
        ∀ answer extended,
          table.restore (Name.ofText "") = .ok (answer, extended) ↔
            ¬ table.Refuses "" ∧
              answer = Name.ofText "" ∧
              extended = table.including (Name.ofText "")) ∧
      (∀ listed ∈ table.names,
        table.restore listed = .ok (listed, table) ∧
          (listed.text ≠ "" → table.intern listed.text = .ok (listed, table)) ∧
          (listed.text = "" → listed = Name.ofText "")) ∧
      (Name.ofText "" ∈ table.names ↔
        ∃ front rest,
          requests = front ++ .restore (Name.ofText "") :: rest ∧
            ¬ (Request.run front).Refuses "") := by
  intro table
  have wellFormed : table.WellFormed :=
    .run requests
  refine ⟨?stored, ?empty, ?listed, ?emptyListed⟩
  case stored =>
    exact fun name notEmpty answer extended => restore_eq_ok_iff notEmpty
  case empty =>
    exact ⟨rfl, fun answer extended => wellFormed.restore_ofText_eq_ok_iff ""⟩
  case listed =>
    intro listed member
    have isName : listed = Name.ofText listed.text := by
      rw [Name.ofText, ← wellFormed.hashGenuine listed member]
    have restored := wellFormed.restore_of_mem member
    refine ⟨restored, ?_, ?_⟩
    · intro isText
      have notEmpty : listed ≠ Name.ofText "" :=
        fun isEmpty => isText (congrArg Name.text isEmpty)
      exact ((restore_eq_ok_iff notEmpty).mp restored).2
    · intro isEmpty
      rwa [isEmpty] at isName
  case emptyListed =>
    rw [mem_names_run]
    simp only [Request.text?_eq_some_empty_iff]
    constructor
    · rintro ⟨front, request, rest, shape, rfl, accepts⟩
      exact ⟨front, rest, shape, accepts⟩
    · rintro ⟨front, rest, shape, accepts⟩
      exact ⟨front, _, rest, shape, rfl, accepts⟩

/-- A text is interned, and the name of the empty text is restored behind it. -/
def emptyTextRestored : List Request :=
  [.intern "int", .restore (Name.ofText "")]

/--
The name of the text is taken and leaves the table as it is, and the empty text is listed
under a hash that it is not interned with.
-/
theorem restore_agrees_with_intern_emptyTextRestored :
    let table := Request.run emptyTextRestored
    table.restore (Name.ofText "int") = .ok (Name.ofText "int", table) ∧
      table.intern "int" = .ok (Name.ofText "int", table) ∧
      Name.ofText "" ∈ table.names ∧
      table.intern "" = .ok (Name.absent, table) := by
  obtain ⟨stored, ⟨empty, -⟩, listed, emptyListed⟩ :=
    restore_agrees_with_intern emptyTextRestored
  obtain ⟨restored, -, -⟩ := listed (Name.ofText "int") (by decide)
  have notEmpty : Name.ofText "int" ≠ Name.ofText "" := by
    decide
  refine ⟨restored, ((stored _ notEmpty _ _).mp restored).2, ?_, empty⟩
  exact emptyListed.mpr ⟨[.intern "int"], [], rfl, by decide⟩

/-- The name of the empty text is restored where interning the empty text answers another. -/
theorem not_restore_agrees_with_intern_emptyText :
    ¬ ∀ requests : List Request,
      let table := Request.run requests
      (∀ name extended,
          (∃ answer, table.restore name = .ok (answer, extended)) ↔
            table.intern name.text = .ok (name, extended)) ∧
        ∀ listed ∈ table.names,
          table.intern listed.text = .ok (listed, table) ∧ listed.text ≠ "" := by
  intro agrees
  have answered : NameTable.empty.intern "" = .ok (Name.ofText "", ⟨[Name.ofText ""]⟩) :=
    ((agrees []).1 (Name.ofText "") _).mp ⟨Name.ofText "", rfl⟩
  have sameName : Name.absent = Name.ofText "" :=
    congrArg Prod.fst (Except.ok.inj answered)
  exact ofText_ne_absent "" sameName.symm

end NameTable

end SymbolDatabase
