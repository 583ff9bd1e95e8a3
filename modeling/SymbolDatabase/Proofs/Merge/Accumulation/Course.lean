import Mathlib.Logic.Relation
import SymbolDatabase.Proofs.Merge.Accumulation.Lockstep

namespace SymbolDatabase

/-!
# The course of a merge

A merge with the origins kept apart does what a merge of holdings does.  It unites the names
first, or is given up when they cannot be united.  Then it takes in the symbols kind by kind
and input by input: comparing the symbols of an input collapses them, and the pending ones
are appended or reported as what was collapsed says.  When nothing is left to do, the store,
the names and the reports are those that a merge answers.
-/

namespace Merge

/-- Crediting an input is noting it with the first holding of the definition. -/
theorem creditFirst?_eq_map
    (input : Nat)
    (symbol : Symbol)
    (holdings : List Holding) :
    creditFirst? input symbol holdings =
      (holdings.findIdx? fun holding => holding.symbol.sameDefinition symbol).map
        fun position => holdings.modify position fun holding => holding.credit input := by
  induction holdings with
  | nil =>
      rfl
  | cons holding rest inductionHypothesis =>
      by_cases same : holding.symbol.sameDefinition symbol = true
      · simp [creditFirst?, List.findIdx?_cons, same]
      · simp [creditFirst?, List.findIdx?_cons, same, inductionHypothesis,
          Function.comp_def]

/-- Crediting a holding is noting the input in its row. -/
theorem Holding.credit_eq
    (holding : Holding)
    (input : Nat) :
    holding.credit input = ⟨holding.symbol, noteOrigin input holding.origins⟩ := by
  unfold Holding.credit noteOrigin
  split <;> rfl

namespace Accumulation

variable
  {count : Nat}
  {task : Task}
  {state middle next : Accumulation}
  {kind : Kind}
  {symbol : Symbol}
  {input position start : Nat}
  {later : List Task}
  {pending rest : List Symbol}

/-- Planning something leaves what is held alone. -/
theorem holdings_plan
    (task : Task)
    (state : Accumulation) :
    (plan task state).holdings = state.holdings :=
  rfl

/-- Crediting a row credits what is held with it. -/
theorem holdings_credited
    (state : Accumulation)
    (kind : Kind)
    (input position : Nat) :
    (state.credited kind input position).holdings =
      Function.update state.holdings kind
        ((state.holdings kind).modify position fun holding => holding.credit input) := by
  funext other
  by_cases same : other = kind
  · subst same
    rw [Function.update_self, holdings, rows_credited, if_pos rfl]
    refine List.ext_getElem? fun place => ?_
    rw [List.getElem?_modify, holdings, List.getElem?_zipWith, List.getElem?_modify,
      List.getElem?_zipWith, database_credited]
    cases (state.database.symbols other)[place]? <;>
      cases (state.rows other)[place]? <;>
      by_cases here : position = place <;>
      simp [here, Holding.credit_eq]
  · rw [Function.update_of_ne same, holdings, rows_credited, if_neg same]
    rfl

/-- Appending a symbol of the kind at hand holds it with its row. -/
theorem holdings_append
    (state : Accumulation)
    (lockstep : (state.rows kind).length = (state.database.symbols kind).length)
    (ofKind : symbol.kind = kind)
    (input : Nat) :
    (state.append kind input symbol).holdings =
      Function.update state.holdings kind
        (state.holdings kind ++ [⟨symbol, [input]⟩]) := by
  funext other
  rw [holdings, rows_append, symbols_append, ofKind]
  by_cases same : other = kind
  · subst same
    rw [Function.update_self, if_pos rfl, if_pos rfl, List.zipWith_append lockstep.symm]
    rfl
  · rw [Function.update_of_ne same, if_neg same, if_neg same]
    rfl

/-- One moment follows another, after any number of steps. -/
def Leads : Accumulation → Accumulation → Prop :=
  Relation.ReflTransGen fun state next => state.advance? = some next

/-- What comes of a moment is there after some number of steps. -/
theorem Leads.exists_after?
    (leads : state.Leads next) :
    ∃ steps, state.after? steps = some next := by
  induction leads with
  | refl =>
      exact ⟨0, rfl⟩
  | tail _ advanced inductionHypothesis =>
      obtain ⟨steps, reached⟩ := inductionHypothesis
      exact ⟨steps + 1, by rw [after?, reached, Option.bind_some, advanced]⟩

/-- Working on the task that comes up leads on. -/
theorem Leads.of_perform?
    (planned : state.agenda = task :: later)
    (performed : perform? { state with agenda := later } task = some next) :
    state.Leads next := by
  refine .single ?_
  rw [advance?, planned]
  exact performed

/-- A moment comes of a sound one, and only symbols, rows and reports are others. -/
structure ComesTo
    (count : Nat)
    (state next : Accumulation) :
    Prop where
  leads :
    state.Leads next
  sound :
    next.Sound count
  database :
    next.database = { state.database with store := next.database.store }
  labels :
    next.labels = state.labels
  refusal :
    next.refusal = state.refusal

namespace ComesTo

theorem names
    (comes : ComesTo count state next) :
    next.database.names = state.database.names := by
  rw [comes.database]

theorem refl
    (sound : state.Sound count) :
    ComesTo count state state :=
  ⟨.refl, sound, rfl, rfl, rfl⟩

theorem trans
    (first : ComesTo count state middle)
    (second : ComesTo count middle next) :
    ComesTo count state next where
  leads :=
    first.leads.trans second.leads
  sound :=
    second.sound
  database := by
    rw [second.database, first.database]
  labels :=
    second.labels.trans first.labels
  refusal :=
    second.refusal.trans first.refusal

end ComesTo

namespace Sound

/-- A task that leaves names, flags and labels alone leads to a moment that comes of this. -/
theorem comesTo
    (sound : state.Sound count)
    (planned : state.agenda = task :: later)
    (performed : perform? { state with agenda := later } task = some next)
    (database : next.database = { state.database with store := next.database.store })
    (labels : next.labels = state.labels)
    (refusal : next.refusal = state.refusal) :
    ComesTo count state next where
  leads :=
    .of_perform? planned performed
  sound := by
    obtain ⟨taken, fits⟩ := sound.take planned
    obtain ⟨other, otherPerformed, otherSound⟩ := taken.exists_perform? fits
    obtain rfl := Option.some.inj (performed.symm.trans otherPerformed)
    exact otherSound
  database :=
    database
  labels :=
    labels
  refusal :=
    refusal

/-- Crediting is noting an input where the store has the definition first. -/
theorem creditFirst?_holdings
    (sound : state.Sound count)
    (kind : Kind)
    (input : Nat)
    (symbol : Symbol) :
    creditFirst? input symbol (state.holdings kind) =
      ((state.database.symbols kind).findIdx? fun held => held.sameDefinition symbol).map
        fun position =>
          (state.holdings kind).modify position fun holding => holding.credit input := by
  rw [creditFirst?_eq_map, ← heldSymbols_holdings (sound.lockstep kind), heldSymbols,
    List.findIdx?_map]
  rfl

/-- Comparing the symbols of an input collapses them. -/
theorem exists_compared
    (sound : state.Sound count)
    (planned : state.agenda = .compare kind input rest pending :: later) :
    ∃ next,
      ComesTo count state next ∧
        next.agenda =
            .compare kind input []
                (pending ++ (collapse input rest (state.holdings kind)).2) ::
              later ∧
        next.holdings =
          Function.update state.holdings kind
            (collapse input rest (state.holdings kind)).1 ∧
        next.conflicts = state.conflicts := by
  induction rest generalizing state pending with
  | nil =>
      refine ⟨state, .refl sound, ?_, ?_, rfl⟩
      · simpa [collapse] using planned
      · simp [collapse]
  | cons symbol rest inductionHypothesis =>
      obtain ⟨taken, fits⟩ := sound.take planned
      have credits := sound.creditFirst?_holdings kind input symbol
      cases found :
        (state.database.symbols kind).findIdx? fun held => held.sameDefinition symbol with
      | some position =>
          have first :=
            sound.comesTo planned (taken.perform?_credit fits found) rfl rfl rfl
          obtain ⟨next, comes, agenda, held, conflicts⟩ :=
            inductionHypothesis first.sound rfl
          rw [found, Option.map_some] at credits
          rw [holdings_plan, holdings_credited, Function.update_self] at agenda held
          refine ⟨next, first.trans comes, ?_, ?_, conflicts⟩
          · rw [agenda, collapse, credits]
            rfl
          · rw [held, collapse, credits, Function.update_idem]
            rfl
      | none =>
          have first :=
            sound.comesTo planned (taken.perform?_defer fits found) rfl rfl rfl
          obtain ⟨next, comes, agenda, held, conflicts⟩ :=
            inductionHypothesis first.sound rfl
          rw [found, Option.map_none] at credits
          refine ⟨next, first.trans comes, ?_, ?_, conflicts⟩
          · rw [agenda, collapse, credits]
            simp
            rfl
          · rw [held, collapse, credits]
            rfl

/-- Pending symbols are appended or reported as what was collapsed says. -/
theorem exists_concluded
    (sound : state.Sound count)
    {collapsed : List Holding}
    (planned :
      state.agenda =
        .conclude kind input
            (pending.map fun symbol =>
              (symbol, rivalPosition? input collapsed symbol)) ::
          later)
    (grown : collapsed <+: state.holdings kind) :
    ∃ next,
      ComesTo count state next ∧
        next.agenda = later ∧
        next.holdings =
          Function.update state.holdings kind
            (state.holdings kind ++
              (pending.filter fun symbol => (rival? input collapsed symbol).isNone).map
                fun symbol => ⟨symbol, [input]⟩) ∧
        next.conflicts =
          state.conflicts ++
            (pending.filterMap (clash? input collapsed)).map fun clash =>
              clash.report kind state.database.names state.labels := by
  induction pending generalizing state with
  | nil =>
      have finished := sound.comesTo planned rfl rfl rfl rfl
      refine ⟨_, finished, rfl, ?_, ?_⟩
      · simp
        rfl
      · simp
  | cons symbol rest inductionHypothesis =>
      rw [List.map_cons] at planned
      obtain ⟨taken, fits⟩ := sound.take planned
      have judged := rival?_eq_bind input collapsed symbol
      cases isRival : rivalPosition? input collapsed symbol with
      | none =>
          rw [isRival] at planned fits judged
          have ofKind := (fits.2 symbol none (by simp)).1
          have first := sound.comesTo planned rfl rfl rfl rfl
          have appended :=
            holdings_append { state with agenda := later } (sound.lockstep kind) ofKind input
          have stillGrown :
              collapsed <+:
                (Accumulation.append { state with agenda := later } kind input symbol).holdings
                  kind := by
            rw [appended, Function.update_self]
            exact grown.trans (List.prefix_append _ _)
          obtain ⟨next, comes, agenda, held, conflicts⟩ :=
            inductionHypothesis first.sound rfl stillGrown
          rw [holdings_plan, appended, Function.update_self, Function.update_idem] at held
          rw [Option.bind_none] at judged
          have noClash : clash? input collapsed symbol = none := by
            rw [clash?, judged, Option.map_none]
          refine ⟨next, first.trans comes, agenda, ?_, ?_⟩
          · rw [held, List.filter_cons_of_pos (by simp [judged]), List.map_cons,
              List.append_assoc]
            rfl
          · rw [conflicts, List.filterMap_cons_none noClash]
            rfl
      | some position =>
          rw [isRival] at planned fits judged
          have inside := rivalPosition?_lt isRival
          have there : collapsed[position]? = some collapsed[position] :=
            List.getElem?_eq_getElem inside
          have held : (state.holdings kind)[position]? = some collapsed[position] := by
            obtain ⟨behind, shape⟩ := grown
            rw [← shape, List.getElem?_append_left inside, there]
          have first :=
            sound.comesTo planned (taken.perform?_report fits held) rfl rfl rfl
          obtain ⟨next, comes, agenda, nextHeld, conflicts⟩ :=
            inductionHypothesis first.sound rfl grown
          rw [Option.bind_some, there] at judged
          have isClash :
              clash? input collapsed symbol =
                some ⟨collapsed[position], ⟨symbol, [input]⟩⟩ := by
            rw [clash?, judged, Option.map_some]
          refine ⟨next, first.trans comes, agenda, ?_, ?_⟩
          · rw [nextHeld, List.filter_cons_of_neg (by simp [judged])]
            rfl
          · rw [conflicts, List.filterMap_cons_some isClash, List.map_cons, List.append_cons]
            rfl

/-- Merging the symbols of a kind in one input takes them in. -/
theorem exists_taken
    (sound : state.Sound count)
    {symbols : List Symbol}
    (planned : state.agenda = .compare kind input symbols [] :: later) :
    ∃ next,
      ComesTo count state next ∧
        next.agenda = later ∧
        next.holdings =
          Function.update state.holdings kind
            (takeIn input symbols (state.holdings kind)).1 ∧
        next.conflicts =
          state.conflicts ++
            (takeIn input symbols (state.holdings kind)).2.map fun clash =>
              clash.report kind state.database.names state.labels := by
  obtain ⟨compared, comparedComes, comparedAgenda, comparedHeld, comparedConflicts⟩ :=
    sound.exists_compared planned
  rw [List.nil_append] at comparedAgenda
  obtain ⟨comparedTaken, comparedFits⟩ := comparedComes.sound.take comparedAgenda
  have judged :=
    comparedComes.sound.comesTo comparedAgenda (comparedTaken.perform?_judge comparedFits)
      rfl rfl rfl
  have collapsed :
      compared.holdings kind = (collapse input symbols (state.holdings kind)).1 := by
    rw [comparedHeld, Function.update_self]
  have grown :
      (collapse input symbols (state.holdings kind)).1 <+: compared.holdings kind :=
    collapsed ▸ List.prefix_refl _
  obtain ⟨next, comes, agenda, held, conflicts⟩ :=
    judged.sound.exists_concluded (by rw [← collapsed]; rfl) grown
  refine ⟨next, (comparedComes.trans judged).trans comes, agenda, ?_, ?_⟩
  · have sameHeld : ∀ task, (Accumulation.plan task { compared with agenda := later }).holdings =
        compared.holdings := fun _ => rfl
    rw [held, sameHeld, collapsed, comparedHeld, Function.update_idem]
    rfl
  · have sameReports :
        next.conflicts =
          compared.conflicts ++
            (takeIn input symbols (state.holdings kind)).2.map fun clash =>
              clash.report kind compared.database.names compared.labels :=
      conflicts
    rw [sameReports, comparedConflicts, comparedComes.labels, comparedComes.names]

/-- Merging the symbols of a kind takes in all inputs, one after another. -/
theorem exists_takenAll
    (sound : state.Sound count)
    {inputs : List Database}
    (planned : state.agenda = turns start inputs kind ++ later) :
    ∃ next,
      ComesTo count state next ∧
        next.agenda = later ∧
        next.holdings =
          Function.update state.holdings kind
            (takeInAll start (sequences inputs kind) (state.holdings kind)).1 ∧
        next.conflicts =
          state.conflicts ++
            (takeInAll start (sequences inputs kind) (state.holdings kind)).2.map
              fun clash => clash.report kind state.database.names state.labels := by
  induction inputs generalizing state start with
  | nil =>
      refine ⟨state, .refl sound, planned, ?_, ?_⟩
      · simp [sequences, takeInAll]
      · simp [sequences, takeInAll]
  | cons first rest inductionHypothesis =>
      rw [turns, List.zipIdx_cons, List.map_cons, List.cons_append] at planned
      obtain ⟨middle, firstComes, firstAgenda, firstHeld, firstConflicts⟩ :=
        sound.exists_taken planned
      obtain ⟨next, comes, agenda, held, conflicts⟩ :=
        inductionHypothesis firstComes.sound firstAgenda
      rw [firstHeld, Function.update_self] at held conflicts
      rw [firstConflicts, firstComes.labels, firstComes.names] at conflicts
      refine ⟨next, firstComes.trans comes, agenda, ?_, ?_⟩
      · rw [held, Function.update_idem]
        rfl
      · rw [conflicts, List.append_assoc, ← List.map_append]
        rfl

/-- Merging kinds one after another takes in all inputs in each of them. -/
theorem exists_takenKinds
    (sound : state.Sound count)
    {inputs : List Database}
    {kinds : List Kind}
    (distinct : kinds.Nodup)
    (planned : state.agenda = kinds.flatMap (turns start inputs) ++ later) :
    ∃ next,
      ComesTo count state next ∧
        next.agenda = later ∧
        (∀ kind,
          next.holdings kind =
            if kind ∈ kinds then
              (symbolsAndClashes start state.holdings inputs kind).1
            else
              state.holdings kind) ∧
        next.conflicts =
          state.conflicts ++
            kinds.flatMap fun kind =>
              (symbolsAndClashes start state.holdings inputs kind).2.map
                fun clash => clash.report kind state.database.names state.labels := by
  induction kinds generalizing state with
  | nil =>
      exact ⟨state, .refl sound, planned, by simp, by simp⟩
  | cons kind rest inductionHypothesis =>
      obtain ⟨fresh, restDistinct⟩ := List.nodup_cons.mp distinct
      rw [List.flatMap_cons, List.append_assoc] at planned
      obtain ⟨middle, firstComes, firstAgenda, firstHeld, firstConflicts⟩ :=
        sound.exists_takenAll planned
      obtain ⟨next, comes, agenda, held, conflicts⟩ :=
        inductionHypothesis firstComes.sound restDistinct firstAgenda
      have unchanged :
          ∀ other ∈ rest,
            symbolsAndClashes start middle.holdings inputs other =
              symbolsAndClashes start state.holdings inputs other := by
        intro other member
        have apart : other ≠ kind := fun same => fresh (same ▸ member)
        rw [symbolsAndClashes, firstHeld, Function.update_of_ne apart]
        rfl
      refine ⟨next, firstComes.trans comes, agenda, fun other => ?_, ?_⟩
      · rw [held other]
        by_cases inRest : other ∈ rest
        · rw [if_pos inRest, if_pos (List.mem_cons_of_mem _ inRest), unchanged other inRest]
        · rw [if_neg inRest, firstHeld]
          by_cases same : other = kind
          · subst same
            rw [Function.update_self, if_pos (by simp)]
            rfl
          · rw [Function.update_of_ne same, if_neg (by simp [same, inRest])]
      · rw [conflicts, firstConflicts, List.flatMap_cons, List.append_assoc,
          firstComes.labels, firstComes.names,
          List.flatMap_congr fun other member => by rw [unchanged other member]]
        rfl

end Sound

/-- Uniting a name that can be bound leads to uniting the others. -/
theorem leads_named
    {name : Name}
    {names : List Name}
    {answer : Name × NameTable}
    (planned : state.agenda = .unite (name :: names) :: later)
    (bound : state.database.names.bind name.hash name.text = .ok answer) :
    state.Leads
      { state with
        database := { state.database with names := answer.2 }
        agenda := .unite names :: later } := by
  refine .of_perform? planned ?_
  simp only [perform?, bound]
  rfl

/-- Names that can be united are united. -/
theorem leads_united
    {names : List Name}
    {united : NameTable}
    (planned : state.agenda = .unite names :: later)
    (absorbed : state.database.names.absorb names = (.ok (), united)) :
    state.Leads
      { state with
        database := { state.database with names := united }
        agenda := later } := by
  induction names generalizing state with
  | nil =>
      obtain rfl : state.database.names = united :=
        congrArg Prod.snd absorbed
      exact .of_perform? planned rfl
  | cons name rest inductionHypothesis =>
      rw [NameTable.absorb] at absorbed
      cases bound : state.database.names.bind name.hash name.text with
      | error error =>
          rw [bound] at absorbed
          cases absorbed
      | ok answer =>
          rw [bound] at absorbed
          exact (leads_named planned bound).trans (inductionHypothesis rfl absorbed)

/-- When names cannot be united, the merge is given up with the error. -/
theorem leads_refused
    {names : List Name}
    {united : NameTable}
    {error : Error}
    (planned : state.agenda = .unite names :: later)
    (absorbed : state.database.names.absorb names = (.error error, united)) :
    state.Leads
      { state with
        database := { state.database with names := united }
        agenda := []
        refusal := some error } := by
  induction names generalizing state with
  | nil =>
      cases absorbed
  | cons name rest inductionHypothesis =>
      rw [NameTable.absorb] at absorbed
      cases bound : state.database.names.bind name.hash name.text with
      | error found =>
          rw [bound] at absorbed
          cases absorbed
          refine .of_perform? planned ?_
          simp only [perform?, bound]
      | ok answer =>
          rw [bound] at absorbed
          exact (leads_named planned bound).trans (inductionHypothesis rfl absorbed)

namespace Sound

/-- What is merged in the end is what taking in all inputs gives. -/
theorem store_eq
    (sound : state.Sound count)
    {holdings : Kind → List Holding}
    (held : state.holdings = holdings) :
    state.database.store =
      Store.ofSymbols (Kind.all.flatMap fun kind => (holdings kind).map Holding.symbol) := by
  obtain ⟨symbols, filled⟩ := sound.filled
  have listed :
      ∀ kind, (holdings kind).map Holding.symbol = state.database.symbols kind := by
    intro kind
    rw [← held]
    exact heldSymbols_holdings (sound.lockstep kind)
  rw [filled]
  refine Store.ofSymbols_eq_of_symbols fun kind => ?_
  simp only [listed]
  rw [← filled, Store.symbols_ofSymbols]
  exact (Kind.filter_flatMap_all sound.sorted kind).symm

/-- A merge whose names can be united ends with what taking in all inputs gives. -/
theorem exists_merged
    (sound : state.Sound count)
    {inputs : List Database}
    {names : NameTable}
    (planned : state.agenda = agendaOf start inputs)
    (absorbed :
      state.database.names.absorb (inputs.flatMap fun input => input.names.names) =
        (.ok (), names)) :
    ∃ final,
      state.Leads final ∧
        final.agenda = [] ∧
        final.refusal = state.refusal ∧
        final.database =
          { names := names
            store := (storeAndConflicts start state.holdings inputs names state.labels).1
            source := state.database.source
            hasBaseTypes :=
              state.database.hasBaseTypes || inputs.any Database.hasBaseTypes } ∧
        final.conflicts =
          state.conflicts ++
            (storeAndConflicts start state.holdings inputs names state.labels).2 := by
  obtain ⟨taken, -⟩ := sound.take planned
  have named := leads_united planned absorbed
  have namedSound :
      Accumulation.Sound count
        { state with
          database := { state.database with names := names }
          agenda :=
            Kind.all.flatMap (turns start inputs) ++
              [.mark (inputs.any Database.hasBaseTypes)] } :=
    taken.congr rfl rfl rfl (List.Subset.refl _)
  obtain ⟨merged, comes, agenda, held, conflicts⟩ :=
    namedSound.exists_takenKinds (by decide) rfl
  have marked := Leads.of_perform? agenda rfl
  refine ⟨_, named.trans (comes.leads.trans marked), rfl, comes.refusal, ?_, conflicts⟩
  have allHeld :
      merged.holdings = fun kind => (symbolsAndClashes start state.holdings inputs kind).1 := by
    funext kind
    rw [held kind, if_pos (Kind.mem_all kind)]
    rfl
  rw [comes.database, comes.sound.store_eq allHeld]
  rfl

end Sound

/-- The tasks of a merge fit if there are labels for all inputs. -/
theorem fits_agendaOf
    {inputs : List Database}
    (wellFormed : ∀ input ∈ inputs, input.WellFormed)
    (labelled : start + inputs.length ≤ count)
    (task : Task)
    (planned : task ∈ agendaOf start inputs) :
    state.Fits count task := by
  rw [agendaOf, List.mem_cons, List.mem_append, List.mem_singleton] at planned
  rcases planned with rfl | ofKind | rfl
  · trivial
  · obtain ⟨kind, -, turn⟩ := List.mem_flatMap.mp ofKind
    obtain ⟨⟨input, number⟩, listed, rfl⟩ := List.mem_map.mp turn
    obtain ⟨-, below, isInput⟩ := List.mem_zipIdx listed
    have member : input ∈ inputs := isInput ▸ List.getElem_mem _
    refine ⟨by omega, fun symbol stands => ?_⟩
    rw [List.append_nil] at stands
    exact (wellFormed input member).sorted kind symbol stands
  · trivial

/-- A merge starts soundly. -/
theorem sound_ofInputs
    {inputs : List Database}
    (wellFormed : ∀ input ∈ inputs, input.WellFormed) :
    (ofInputs inputs).Sound inputs.length where
  labels := by
    simp [ofInputs, Merge.labels]
  filled :=
    ⟨[], rfl⟩
  lockstep kind := by
    simp [ofInputs, Database.empty, Database.symbols]
  rows kind row member := by
    cases member
  agenda :=
    fits_agendaOf wellFormed (by omega)

/-- Absorbing a database starts soundly. -/
theorem sound_ofAccumulated
    {accumulated input : Database}
    (reachable : accumulated.Reachable)
    (wellFormed : input.WellFormed) :
    (ofAccumulated accumulated input).Sound 2 where
  labels :=
    rfl
  filled :=
    reachable.exists_store_eq
  lockstep kind := by
    simp [ofAccumulated, Store.count_eq_length, Database.symbols]
  rows kind row member := by
    rw [List.eq_of_mem_replicate member]
    exact .singleton Nat.two_pos
  agenda :=
    fits_agendaOf (by simpa using wellFormed) le_rfl

/-- A merge starts with nothing held. -/
theorem holdings_ofInputs
    (inputs : List Database) :
    (ofInputs inputs).holdings = fun _ => [] := by
  funext kind
  simp [holdings, ofInputs]

/-- Absorbing starts with all that was accumulated held as coming from one input. -/
theorem holdings_ofAccumulated
    (accumulated input : Database) :
    (ofAccumulated accumulated input).holdings = holdingsOf accumulated := by
  funext kind
  have rows :
      (ofAccumulated accumulated input).rows kind =
        (accumulated.symbols kind).map fun _ => [0] := by
    rw [List.map_const', Database.symbols, ← Store.count_eq_length]
    rfl
  rw [holdings, rows, List.zipWith_map_right]
  exact List.zipWith_self

/-- A merge ends with its answer. -/
theorem exists_merge
    {inputs : List Database}
    (wellFormed : ∀ input ∈ inputs, input.WellFormed) :
    ∃ final,
      (ofInputs inputs).Leads final ∧
        final.agenda = [] ∧
        Database.merge inputs = final.answer.map (MergeOutcome.mk final.database) := by
  have sound := sound_ofInputs wellFormed
  rcases absorbed :
      NameTable.empty.absorb (inputs.flatMap fun input => input.names.names) with
    ⟨error | ⟨⟩, names⟩
  · refine ⟨_, leads_refused rfl absorbed, rfl, ?_⟩
    rw [Database.merge_of_absorb_error absorbed]
    rfl
  · obtain ⟨final, leads, agenda, refusal, database, conflicts⟩ :=
      sound.exists_merged rfl absorbed
    refine ⟨final, leads, agenda, ?_⟩
    rw [holdings_ofInputs] at database conflicts
    rw [answer, refusal, database, conflicts, Database.merge, absorbed]
    simp [ofInputs, Except.map, Merge.labels, Database.empty]

/-- Absorbing a database ends with its answer. -/
theorem exists_absorb
    {accumulated input : Database}
    (reachable : accumulated.Reachable)
    (wellFormed : input.WellFormed) :
    ∃ final,
      (ofAccumulated accumulated input).Leads final ∧
        final.agenda = [] ∧
        Edit.absorb input accumulated = (final.answer, final.database) := by
  have sound := sound_ofAccumulated reachable wellFormed
  have sameNames :
      (ofAccumulated accumulated input).database.names.absorb
          ([input].flatMap fun input => input.names.names) =
        accumulated.names.absorb input.names.names := by
    rw [List.flatMap_singleton]
    rfl
  rcases absorbed : accumulated.names.absorb input.names.names with ⟨error | ⟨⟩, names⟩
  · refine ⟨_, leads_refused rfl (sameNames.trans absorbed), rfl, ?_⟩
    rw [Edit.absorb_of_absorb_error absorbed]
    rfl
  · obtain ⟨final, leads, agenda, refusal, database, conflicts⟩ :=
      sound.exists_merged rfl (sameNames.trans absorbed)
    refine ⟨final, leads, agenda, ?_⟩
    rw [holdings_ofAccumulated] at database conflicts
    rw [answer, refusal, database, conflicts, Edit.absorb, absorbed]
    simp [ofAccumulated]

end Accumulation

end Merge

open Merge

/--
A merge never asks for anything at a position where nothing is.  At every moment of a merge
of inputs, and of absorbing an input, there are as many rows of origins of a kind as symbols
of the kind in the store, every row notes at least one input, none twice, and only such as
have a label, and every position at which a symbol is looked for is one of a symbol with its
name.  So every next moment is there, up to the one in which nothing is left to do, and the
answer then is that of the merge.
-/
theorem accumulation_stays_in_range :
    (∀ inputs : List Database,
      (∀ input ∈ inputs, input.Reachable) →
        (∀ steps,
          ∃ state,
            (Accumulation.ofInputs inputs).after? steps = some state ∧
              state.InRange inputs.length) ∧
          ∃ steps final,
            (Accumulation.ofInputs inputs).after? steps = some final ∧
              final.agenda = [] ∧
              Database.merge inputs = final.answer.map (MergeOutcome.mk final.database)) ∧
      ∀ accumulated input : Database,
        accumulated.Reachable →
        input.Reachable →
          (∀ steps,
            ∃ state,
              (Accumulation.ofAccumulated accumulated input).after? steps = some state ∧
                state.InRange 2) ∧
            ∃ steps final,
              (Accumulation.ofAccumulated accumulated input).after? steps = some final ∧
                final.agenda = [] ∧
                Edit.absorb input accumulated = (final.answer, final.database) := by
  constructor
  · intro inputs reachable
    have wellFormed : ∀ input ∈ inputs, input.WellFormed :=
      fun input member => (reachable input member).wellFormed
    refine ⟨(Accumulation.sound_ofInputs wellFormed).exists_inRange, ?_⟩
    obtain ⟨final, leads, finished, answered⟩ := Accumulation.exists_merge wellFormed
    obtain ⟨steps, reached⟩ := leads.exists_after?
    exact ⟨steps, final, reached, finished, answered⟩
  · intro accumulated input reachable inputReachable
    have wellFormed := inputReachable.wellFormed
    refine ⟨(Accumulation.sound_ofAccumulated reachable wellFormed).exists_inRange, ?_⟩
    obtain ⟨final, leads, finished, answered⟩ :=
      Accumulation.exists_absorb reachable wellFormed
    obtain ⟨steps, reached⟩ := leads.exists_after?
    exact ⟨steps, final, reached, finished, answered⟩

/--
Three units are merged, and the third one is about to clash with the first: two inputs are
noted for one constant and one for the other.  When it is absorbed into the second unit,
all that was accumulated counts as one input.
-/
theorem accumulation_stays_in_range_clashingUnits :
    (∃ state,
      (Accumulation.ofInputs clashingUnits).after? 36 = some state ∧
        state.rows .enumerator = [[0, 1], [1]] ∧
        state.InRange 3) ∧
      ∃ state,
        (Accumulation.ofAccumulated clashingUnits[1] clashingUnits[2]).after? 11 =
            some state ∧
          state.rows .enumerator = [[0], [0]] ∧
          state.InRange 2 := by
  obtain ⟨merges, absorbs⟩ := accumulation_stays_in_range
  constructor
  · obtain ⟨state, reached, inRange⟩ :=
      (merges clashingUnits clashingUnits_reachable).1 36
    have rows :
        ((Accumulation.ofInputs clashingUnits).after? 36).map
            (fun state => state.rows .enumerator) =
          some [[0, 1], [1]] :=
      rfl
    rw [reached] at rows
    exact ⟨state, reached, Option.some.inj rows, inRange⟩
  · obtain ⟨state, reached, inRange⟩ :=
      (absorbs clashingUnits[1] clashingUnits[2]
        (clashingUnits_reachable _ (List.getElem_mem _))
        (clashingUnits_reachable _ (List.getElem_mem _))).1 11
    have rows :
        ((Accumulation.ofAccumulated clashingUnits[1] clashingUnits[2]).after? 11).map
            (fun state => state.rows .enumerator) =
          some [[0], [0]] :=
      rfl
    rw [reached] at rows
    exact ⟨state, reached, Option.some.inj rows, inRange⟩

end SymbolDatabase
