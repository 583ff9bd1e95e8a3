import SymbolDatabase.Proofs.Merge.Accumulation.Reading

namespace SymbolDatabase

/-!
# Rows of origins in step with the symbols

At every moment of a merge there is one row of origins for each symbol, though the two are
put down in different places: the row with the kind at hand, the symbol with its own kind.
A merge keeps them together as long as its tasks are about symbols of their kinds and about
positions that have a row, and working on such a task plans only such tasks.  So every step
has a result.
-/

namespace Merge

/-- A row of origins: it is not empty, and it notes numbers of inputs, none of them twice. -/
structure IsRow
    (count : Nat)
    (row : List Nat) :
    Prop where
  founded :
    row ≠ []
  distinct :
    row.Nodup
  below :
    ∀ input ∈ row, input < count

namespace IsRow

variable {count input : Nat} {row : List Nat}

theorem singleton
    (below : input < count) :
    IsRow count [input] where
  founded := by
    simp
  distinct :=
    List.nodup_singleton input
  below := by
    simpa using below

/-- Noting an origin leaves a row of origins. -/
theorem noteOrigin
    (isRow : IsRow count row)
    (below : input < count) :
    IsRow count (Merge.noteOrigin input row) := by
  unfold Merge.noteOrigin
  split
  next =>
    exact isRow
  next isNew =>
    constructor
    · simp
    · rw [List.nodup_append]
      refine ⟨isRow.distinct, List.nodup_singleton input, ?_⟩
      rintro origin noted _ added rfl
      exact isNew (List.mem_singleton.mp added ▸ noted)
    · intro origin member
      rcases List.mem_append.mp member with old | added
      · exact isRow.below origin old
      · exact List.mem_singleton.mp added ▸ below

end IsRow

namespace Accumulation

variable
  {count : Nat}
  {task : Task}
  {state next : Accumulation}
  {kind : Kind}
  {symbol : Symbol}
  {input position : Nat}

/--
Nothing that a merge is told to read is missing.  There are labels for all inputs, there
are as many rows of origins as symbols in every kind, and every candidate is the position
of a symbol of the kind with the name that was looked up, and of its row.
-/
structure InRange
    (count : Nat)
    (state : Accumulation) :
    Prop where
  labels :
    state.labels.length = count
  lockstep :
    ∀ kind, (state.rows kind).length = state.database.store.count kind
  rows :
    ∀ kind, ∀ row ∈ state.rows kind, IsRow count row
  candidates :
    ∀ kind symbol,
      ∃ candidates,
        state.candidates? kind symbol = some candidates ∧
          ∀ position ∈ candidates,
            ∃ held row,
              state.symbolAt? kind position = some held ∧
                held.kind = kind ∧
                held.name = symbol.name ∧
                state.rowAt? kind position = some row

/--
A task is about an input that has a label, about symbols of its kind, and about positions
that have rows.
-/
def Fits
    (count : Nat)
    (state : Accumulation) :
    Task → Prop
  | .unite _ | .mark _ =>
      True
  | .compare kind input rest pending =>
      input < count ∧ ∀ symbol ∈ rest ++ pending, symbol.kind = kind
  | .conclude kind input rest =>
      input < count ∧
        ∀ symbol rival,
          (symbol, rival) ∈ rest →
            symbol.kind = kind ∧
              ∀ position, rival = some position → position < (state.rows kind).length

/-- What every step of a merge keeps. -/
structure Sound
    (count : Nat)
    (state : Accumulation) :
    Prop where
  labels :
    state.labels.length = count
  filled :
    ∃ symbols, state.database.store = Store.ofSymbols symbols
  lockstep :
    ∀ kind, (state.rows kind).length = (state.database.symbols kind).length
  rows :
    ∀ kind, ∀ row ∈ state.rows kind, IsRow count row
  agenda :
    ∀ task ∈ state.agenda, state.Fits count task

namespace Fits

/-- A task that fits still does so when rows were added. -/
theorem of_le
    (fits : state.Fits count task)
    (grown : ∀ kind, (state.rows kind).length ≤ (next.rows kind).length) :
    next.Fits count task := by
  cases task with
  | unite | mark | compare =>
      exact fits
  | conclude kind input rest =>
      obtain ⟨below, judged⟩ := fits
      refine ⟨below, fun symbol rival member => ?_⟩
      obtain ⟨ofKind, inside⟩ := judged symbol rival member
      exact ⟨ofKind, fun position isRival =>
        (inside position isRival).trans_le (grown kind)⟩

/-- What is to be done behind the first pending symbol fits as well. -/
theorem tail
    {first : Symbol × Option Nat}
    {judged : List (Symbol × Option Nat)}
    (fits : state.Fits count (.conclude kind input (first :: judged))) :
    state.Fits count (.conclude kind input judged) :=
  ⟨fits.1, fun symbol rival member =>
    fits.2 symbol rival (List.mem_cons_of_mem _ member)⟩

end Fits

namespace Sound

/-- The index of the store is that of its symbols. -/
theorem indexed
    (sound : state.Sound count) :
    state.database.store.Indexed := by
  obtain ⟨symbols, filled⟩ := sound.filled
  rw [filled]
  exact .ofSymbols symbols

/-- Symbols stand among those of their own kind. -/
theorem sorted
    (sound : state.Sound count)
    (kind : Kind) :
    ∀ held ∈ state.database.symbols kind, held.kind = kind := by
  obtain ⟨symbols, filled⟩ := sound.filled
  unfold Database.symbols
  rw [filled]
  exact fun held listed => Store.kind_of_mem_symbols_ofSymbols listed

/-- In a sound moment, every position that is told is one of a symbol and of a row. -/
theorem inRange
    (sound : state.Sound count) :
    state.InRange count where
  labels :=
    sound.labels
  lockstep kind := by
    rw [sound.lockstep kind, Store.count_eq_length]
    rfl
  rows :=
    sound.rows
  candidates kind symbol := by
    refine ⟨_, candidates?_eq_some sound.indexed kind symbol, fun position member => ?_⟩
    obtain ⟨⟨held, place⟩, found, rfl⟩ := List.mem_map.mp member
    obtain ⟨listed, matching⟩ := List.mem_filter.mp found
    have there := List.mem_zipIdx_iff_getElem?.mp listed
    have inside : place < (state.rows kind).length := by
      rw [sound.lockstep kind]
      exact (List.getElem?_eq_some_iff.mp there).1
    simp only [Bool.and_eq_true, decide_eq_true_eq] at matching
    exact ⟨held, _, there, sound.sorted kind held (List.mem_of_getElem? there), matching.1,
      List.getElem?_eq_getElem inside⟩

/-- What neither touches symbols nor rows and plans nothing leaves a sound moment sound. -/
theorem congr
    (sound : state.Sound count)
    (store : next.database.store = state.database.store)
    (rows : next.rows = state.rows)
    (labels : next.labels = state.labels)
    (agenda : next.agenda ⊆ state.agenda) :
    next.Sound count where
  labels :=
    labels ▸ sound.labels
  filled :=
    store ▸ sound.filled
  lockstep kind := by
    rw [rows, Database.symbols, store]
    exact sound.lockstep kind
  rows :=
    rows ▸ sound.rows
  agenda task planned :=
    (sound.agenda task (agenda planned)).of_le fun kind => by rw [rows]

/-- Planning a task that fits keeps a merge sound. -/
theorem plan
    (sound : state.Sound count)
    (fits : state.Fits count task) :
    (plan task state).Sound count where
  labels :=
    sound.labels
  filled :=
    sound.filled
  lockstep :=
    sound.lockstep
  rows :=
    sound.rows
  agenda other planned := by
    rcases List.mem_cons.mp planned with rfl | later
    · exact fits.of_le fun _ => le_rfl
    · exact (sound.agenda other later).of_le fun _ => le_rfl

/-- Noting an input that has a label keeps a merge sound. -/
theorem credited
    (sound : state.Sound count)
    (below : input < count) :
    (state.credited kind input position).Sound count where
  labels :=
    sound.labels
  filled :=
    sound.filled
  lockstep other := by
    rw [length_rows_credited]
    exact sound.lockstep other
  rows other row member := by
    rw [rows_credited] at member
    split at member
    · obtain ⟨place, found⟩ := List.mem_iff_getElem?.mp member
      rw [List.getElem?_modify] at found
      obtain ⟨old, there, rfl⟩ := Option.map_eq_some_iff.mp found
      have isRow := sound.rows other old (List.mem_of_getElem? there)
      split
      · exact isRow.noteOrigin below
      · exact isRow
    · exact sound.rows other row member
  agenda task planned :=
    (sound.agenda task planned).of_le fun other =>
      (length_rows_credited state kind input position other).ge

/-- A symbol of the kind at hand and its row are put down together. -/
theorem append
    (sound : state.Sound count)
    (below : input < count)
    (ofKind : symbol.kind = kind) :
    (state.append kind input symbol).Sound count where
  labels :=
    sound.labels
  filled := by
    obtain ⟨symbols, filled⟩ := sound.filled
    refine ⟨symbols ++ [symbol], ?_⟩
    rw [Store.ofSymbols_concat, ← filled]
    rfl
  lockstep other := by
    rw [rows_append, symbols_append, ofKind]
    split <;> simp [sound.lockstep other]
  rows other row member := by
    rw [rows_append] at member
    split at member
    · rcases List.mem_append.mp member with old | added
      · exact sound.rows other row old
      · rw [List.mem_singleton.mp added]
        exact .singleton below
    · exact sound.rows other row member
  agenda task planned := by
    refine (sound.agenda task planned).of_le fun other => ?_
    rw [rows_append]
    split <;> simp

variable {rest pending : List Symbol} {judged : List (Symbol × Option Nat)}

/-- There are as many symbols held as there are rows. -/
theorem length_holdings
    (sound : state.Sound count)
    (kind : Kind) :
    (state.holdings kind).length = (state.rows kind).length := by
  simp [holdings, sound.lockstep kind]

/-- At the position of a row something is held. -/
theorem exists_held
    (sound : state.Sound count)
    (inside : position < (state.rows kind).length) :
    ∃ kept, (state.holdings kind)[position]? = some kept :=
  ⟨_, List.getElem?_eq_getElem (sound.length_holdings kind ▸ inside)⟩

/-- When all symbols were compared, the pending ones are judged by what is held. -/
theorem perform?_judge
    (sound : state.Sound count)
    (fits : state.Fits count (.compare kind input [] pending)) :
    state.perform? (.compare kind input [] pending) =
      some
        (Accumulation.plan
          (.conclude kind input
            (pending.map fun symbol =>
              (symbol, rivalPosition? input (state.holdings kind) symbol)))
          state) := by
  have rivals :
      pending.mapM (state.findRival? kind input) =
        some (pending.map (rivalPosition? input (state.holdings kind))) :=
    mapM_eq_some _ fun symbol member =>
      findRival?_eq_some sound.indexed (sound.sorted kind) (sound.lockstep kind)
        (fits.2 symbol (by simpa using member)) input
  simp [perform?, rivals, List.map_prod_left_eq_zip]

/-- The first symbol to be compared is found where the store has its definition first. -/
theorem findSame?_eq
    (sound : state.Sound count)
    (fits : state.Fits count (.compare kind input (symbol :: rest) pending)) :
    state.findSame? kind symbol =
      some
        ((state.database.symbols kind).findIdx? fun held => held.sameDefinition symbol) :=
  findSame?_eq_some sound.indexed (sound.sorted kind) (fits.2 symbol (by simp))

/-- A symbol whose definition is held credits its input. -/
theorem perform?_credit
    (sound : state.Sound count)
    (fits : state.Fits count (.compare kind input (symbol :: rest) pending))
    (found :
      ((state.database.symbols kind).findIdx? fun held => held.sameDefinition symbol) =
        some position) :
    state.perform? (.compare kind input (symbol :: rest) pending) =
      some
        (Accumulation.plan (.compare kind input rest pending)
          (state.credited kind input position)) := by
  have same : state.findSame? kind symbol = some (some position) := by
    rw [sound.findSame?_eq fits, found]
  have inside : position < (state.rows kind).length := by
    obtain ⟨isPosition, -⟩ := List.findIdx?_eq_some_iff_getElem.mp found
    rwa [sound.lockstep kind]
  simp [perform?, same, credit?_eq_some inside]

/-- A symbol whose definition is not held gets pending. -/
theorem perform?_defer
    (sound : state.Sound count)
    (fits : state.Fits count (.compare kind input (symbol :: rest) pending))
    (missing :
      ((state.database.symbols kind).findIdx? fun held => held.sameDefinition symbol) =
        none) :
    state.perform? (.compare kind input (symbol :: rest) pending) =
      some
        (Accumulation.plan (.compare kind input rest (pending ++ [symbol])) state) := by
  have same : state.findSame? kind symbol = some none := by
    rw [sound.findSame?_eq fits, missing]
  simp [perform?, same]

/-- A symbol that clashes with what is held at a position is reported. -/
theorem perform?_report
    (sound : state.Sound count)
    (fits : state.Fits count (.conclude kind input ((symbol, some position) :: judged)))
    {kept : Holding}
    (held : (state.holdings kind)[position]? = some kept) :
    state.perform? (.conclude kind input ((symbol, some position) :: judged)) =
      some
        (Accumulation.plan (.conclude kind input judged)
          (state.reported kind ⟨kept, ⟨symbol, [input]⟩⟩)) := by
  have rowThere := (getElem?_holdings_eq_some_iff.mp held).2
  have isRow := sound.rows kind kept.origins (List.mem_of_getElem? rowThere)
  have report :=
    report?_eq_some held isRow.founded (sound.labels ▸ isRow.below)
      (sound.labels ▸ fits.1) symbol
  simp [perform?, report]

/-- The positions of rivals among what is held are positions of rows. -/
theorem fits_judged
    (sound : state.Sound count)
    (fits : state.Fits count (.compare kind input [] pending)) :
    state.Fits count
      (.conclude kind input
        (pending.map fun symbol =>
          (symbol, rivalPosition? input (state.holdings kind) symbol))) := by
  refine ⟨fits.1, fun symbol rival member => ?_⟩
  obtain ⟨_, isPending, judgement⟩ := List.mem_map.mp member
  obtain ⟨rfl, rfl⟩ := Prod.mk.inj judgement
  refine ⟨fits.2 _ (by simpa using isPending), fun position isRival => ?_⟩
  rw [← sound.length_holdings kind]
  exact rivalPosition?_lt isRival

/-- In a sound moment a task that fits can be worked on, and the next moment is sound. -/
theorem exists_perform?
    (sound : state.Sound count)
    (fits : state.Fits count task) :
    ∃ next, state.perform? task = some next ∧ next.Sound count := by
  match task with
  | .unite [] =>
      exact ⟨state, rfl, sound⟩
  | .unite (name :: rest) =>
      cases bound : state.database.names.bind name.hash name.text with
      | error error =>
          refine ⟨_, by rw [perform?, bound], ?_⟩
          exact sound.congr rfl rfl rfl (List.nil_subset _)
      | ok answer =>
          have named :
              Accumulation.Sound count
                { state with
                  database := { state.database with names := answer.2 } } :=
            sound.congr rfl rfl rfl (List.Subset.refl _)
          refine ⟨_, by rw [perform?, bound], named.plan ?_⟩
          exact trivial
  | .compare kind input [] pending =>
      exact ⟨_, sound.perform?_judge fits, sound.plan (sound.fits_judged fits)⟩
  | .compare kind input (symbol :: rest) pending =>
      cases found :
        (state.database.symbols kind).findIdx? fun held => held.sameDefinition symbol with
      | some position =>
          refine ⟨_, sound.perform?_credit fits found, (sound.credited fits.1).plan ?_⟩
          exact ⟨fits.1, fun other member => fits.2 other (List.mem_cons_of_mem _ member)⟩
      | none =>
          refine ⟨_, sound.perform?_defer fits found, sound.plan ⟨fits.1, ?_⟩⟩
          intro other member
          exact fits.2 other (by simpa [or_comm, or_left_comm] using member)
  | .conclude kind input [] =>
      exact ⟨state, rfl, sound⟩
  | .conclude kind input ((symbol, none) :: rest) =>
      have ofKind := (fits.2 symbol none (by simp)).1
      refine ⟨_, rfl, (sound.append fits.1 ofKind).plan (fits.tail.of_le fun other => ?_)⟩
      rw [rows_append]
      split <;> simp
  | .conclude kind input ((symbol, some position) :: rest) =>
      have inside := (fits.2 symbol (some position) (by simp)).2 position rfl
      obtain ⟨kept, held⟩ := sound.exists_held inside
      have stillSound : (state.reported kind ⟨kept, ⟨symbol, [input]⟩⟩).Sound count :=
        sound.congr rfl rfl rfl (List.Subset.refl _)
      exact ⟨_, sound.perform?_report fits held,
        stillSound.plan (fits.tail.of_le fun _ => le_rfl)⟩
  | .mark hasBaseTypes =>
      exact ⟨_, rfl, sound.congr rfl rfl rfl (List.Subset.refl _)⟩

/-- The task that comes up fits the moment in which it was taken off the agenda. -/
theorem take
    (sound : state.Sound count)
    {later : List Task}
    (planned : state.agenda = task :: later) :
    Accumulation.Sound count { state with agenda := later } ∧
      Accumulation.Fits count { state with agenda := later } task := by
  have fits : state.Fits count task :=
    sound.agenda task (by simp [planned])
  exact ⟨sound.congr rfl rfl rfl (by simp [planned]), fits.of_le fun _ => le_rfl⟩

/-- A sound moment is followed by a sound moment. -/
theorem exists_advance?
    (sound : state.Sound count) :
    ∃ next, state.advance? = some next ∧ next.Sound count := by
  unfold advance?
  cases planned : state.agenda with
  | nil =>
      exact ⟨state, rfl, sound⟩
  | cons task later =>
      obtain ⟨taken, fits⟩ := sound.take planned
      exact taken.exists_perform? fits

/-- From a sound moment on, every moment is there and is sound. -/
theorem exists_after?
    (sound : state.Sound count)
    (steps : Nat) :
    ∃ later, state.after? steps = some later ∧ later.Sound count := by
  induction steps with
  | zero =>
      exact ⟨state, rfl, sound⟩
  | succ steps inductionHypothesis =>
      obtain ⟨middle, reached, middleSound⟩ := inductionHypothesis
      obtain ⟨next, advanced, nextSound⟩ := middleSound.exists_advance?
      exact ⟨next, by rw [after?, reached, Option.bind_some, advanced], nextSound⟩

/-- From a sound moment on, nothing is ever read out of range. -/
theorem exists_inRange
    (sound : state.Sound count)
    (steps : Nat) :
    ∃ later, state.after? steps = some later ∧ later.InRange count := by
  obtain ⟨later, reached, laterSound⟩ := sound.exists_after? steps
  exact ⟨later, reached, laterSound.inRange⟩

end Sound

end Accumulation

end Merge

end SymbolDatabase
