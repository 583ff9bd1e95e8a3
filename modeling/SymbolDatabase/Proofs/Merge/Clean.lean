import SymbolDatabase.Proofs.Merge.Definition
import SymbolDatabase.Proofs.Merge.Inputs
import SymbolDatabase.Proofs.Merge.Reference

namespace SymbolDatabase

/-!
# Clean merges

As long as nothing is rejected, what is held are the definitions of all inputs so far.  So
a merge is clean exactly if every input shares, under each key that it and an earlier
input carry, a definition with some earlier input.  Whether an order of the inputs is
clean can therefore depend on the order; it cannot where two inputs that share a
definition with a third one always share one with each other.
-/

namespace Merge

/-- An input disputes nothing if it contributes to all occupied keys that it carries. -/
theorem disputes_eq_nil_iff
    {held incoming : List Symbol} :
    disputes held incoming = [] ↔
      ∀ symbol ∈ incoming,
        isOccupied held symbol = true →
          contributes held incoming symbol = true := by
  rw [← List.map_eq_nil_iff (f := Prod.snd), map_snd_disputes,
    List.filter_eq_nil_iff]
  refine forall₂_congr fun symbol member => ?_
  rw [decide_eq_true_eq, verdict_eq_rejected_iff]
  constructor
  · intro notRejected occupied
    by_cases held : isHeld held symbol = true
    · exact contributes_iff.mpr ⟨symbol, member, rfl, held⟩
    · by_contra absent
      exact notRejected ⟨by simpa using held, occupied, by simpa using absent⟩
  · rintro contributed ⟨-, occupied, absent⟩
    rw [contributed occupied] at absent
    cases absent

/-- Which keys are occupied follows from which definitions are held. -/
theorem isOccupied_congr
    {held other : List Symbol}
    (same : isHeld held = isHeld other) :
    isOccupied held = isOccupied other := by
  have included :
      ∀ {first second : List Symbol},
        isHeld first = isHeld second →
        ∀ symbol, isOccupied first symbol = true → isOccupied second symbol = true := by
    intro first second agree symbol occupied
    simp only [isOccupied, List.any_eq_true, Symbol.sameKey_iff] at occupied ⊢
    obtain ⟨listed, member, sameKey⟩ := occupied
    have held : isHeld second listed = true := agree ▸ isHeld_of_mem member
    obtain ⟨repeated, repeatedMember, sameDefinition⟩ := List.any_eq_true.mp held
    exact ⟨repeated, repeatedMember,
      (Symbol.key_eq_of_sameDefinition sameDefinition).trans sameKey⟩
  funext symbol
  rw [Bool.eq_iff_iff]
  exact ⟨included same symbol, included same.symm symbol⟩

/-- Whether an input disputes anything follows from which definitions are held. -/
theorem disputes_eq_nil_congr
    {held other : List Symbol}
    (same : isHeld held = isHeld other)
    (incoming : List Symbol) :
    disputes held incoming = [] ↔ disputes other incoming = [] := by
  have sameContributes :
      contributes held incoming = contributes other incoming := by
    unfold contributes
    rw [same]
  rw [disputes_eq_nil_iff, disputes_eq_nil_iff, isOccupied_congr same,
    sameContributes]

/-- After an input that disputes nothing, its definitions are held as well. -/
theorem isHeld_settle
    {held incoming : List Symbol}
    (undisputed : disputes held incoming = []) :
    isHeld (settle held incoming) = isHeld (held ++ incoming) := by
  funext symbol
  rw [Bool.eq_iff_iff, settle, isHeld_append, isHeld_append, Bool.or_eq_true,
    Bool.or_eq_true]
  constructor
  · rintro (before | admitted)
    · exact Or.inl before
    · obtain ⟨other, member, same⟩ := List.any_eq_true.mp admitted
      exact Or.inr
        (List.any_eq_true.mpr ⟨other, List.mem_of_mem_filter member, same⟩)
  · rintro (before | repeated)
    · exact Or.inl before
    · obtain ⟨other, member, same⟩ := List.any_eq_true.mp repeated
      cases fate : verdict held incoming other with
      | collapsed =>
          have otherHeld := verdict_eq_collapsed_iff.mp fate
          rw [isHeld_iff, Symbol.sameDefinition_iff.mp same] at otherHeld
          exact Or.inl (isHeld_iff.mpr otherHeld)
      | rejected =>
          -- Its input would contribute to the key, as nothing is disputed; it does not.
          have contributed := disputes_eq_nil_iff.mp undisputed other member
          obtain ⟨-, occupied, absent⟩ := verdict_eq_rejected_iff.mp fate
          rw [contributed occupied] at absent
          cases absent
      | appended =>
          have admitted :
              other ∈ incoming.filter fun symbol =>
                verdict held incoming symbol = .appended :=
            List.mem_filter.mpr ⟨member, by simpa using fate⟩
          exact Or.inr (List.any_eq_true.mpr ⟨other, admitted, same⟩)

/-- After inputs that dispute nothing, all their definitions are held. -/
theorem isHeld_foldl_settle
    {inputs : List (List Symbol)}
    (undisputed : disputesAll inputs [] = []) :
    isHeld (inputs.foldl settle []) = isHeld inputs.flatten := by
  induction inputs using List.reverseRecOn with
  | nil =>
      rfl
  | append_singleton front last inductionHypothesis =>
      rw [disputesAll_append, List.append_eq_nil_iff] at undisputed
      obtain ⟨frontUndisputed, lastUndisputed⟩ := undisputed
      have settled : disputes (front.foldl settle []) last = [] := by
        simpa [disputesAll] using lastUndisputed
      have frontHeld := inductionHypothesis frontUndisputed
      rw [List.foldl_append, List.foldl_cons, List.foldl_nil, isHeld_settle settled]
      funext symbol
      simp [isHeld_append, frontHeld]

/-- Inputs dispute nothing if each of them disputes nothing of those before it. -/
theorem disputesAll_eq_nil_iff
    {inputs : List (List Symbol)} :
    disputesAll inputs [] = [] ↔
      ∀ front incoming rest,
        inputs = front ++ incoming :: rest →
          disputes front.flatten incoming = [] := by
  induction inputs using List.reverseRecOn with
  | nil =>
      simp [disputesAll]
  | append_singleton before last inductionHypothesis =>
      have parts :
          disputesAll (before ++ [last]) [] = [] ↔
            disputesAll before [] = [] ∧
              disputes (before.foldl settle []) last = [] := by
        simp [disputesAll_append, disputesAll]
      -- The last input is judged against what the others settle to.  As long as they are
      -- undisputed, that holds the definitions of all of them, so it can be replaced.
      rw [parts]
      constructor
      · rintro ⟨beforeUndisputed, lastUndisputed⟩ front incoming rest shape
        rcases List.eq_nil_or_concat rest with rfl | ⟨between, final, rfl⟩
        · obtain ⟨rfl, rfl⟩ : before = front ∧ last = incoming := by
            simpa using List.append_inj' shape rfl
          exact (disputes_eq_nil_congr (isHeld_foldl_settle beforeUndisputed) _).mp
            lastUndisputed
        · obtain ⟨rfl, -⟩ : before = front ++ incoming :: between ∧ [last] = [final] :=
            List.append_inj' (by simpa using shape) rfl
          exact inductionHypothesis.mp beforeUndisputed front incoming between rfl
      · intro undisputed
        have beforeUndisputed : disputesAll before [] = [] := by
          refine inductionHypothesis.mpr fun front incoming rest shape => ?_
          exact undisputed front incoming (rest ++ [last]) (by simp [shape])
        refine ⟨beforeUndisputed, ?_⟩
        rw [disputes_eq_nil_congr (isHeld_foldl_settle beforeUndisputed)]
        exact undisputed before last [] rfl

end Merge

namespace Database

/-- A database has a symbol under a key. -/
def Carries
    (database : Database)
    (key : Kind × NameHash × Option UInt64) :
    Prop :=
  ∃ symbol ∈ database.symbols key.1, symbol.key = key

/-- Two databases have a definition under a key in common. -/
def Shares
    (first second : Database)
    (key : Kind × NameHash × Option UInt64) :
    Prop :=
  ∃ symbol ∈ first.symbols key.1,
    ∃ other ∈ second.symbols key.1,
      symbol.key = key ∧ symbol.sameDefinition other = true

variable
  {first second : Database}
  {key : Kind × NameHash × Option UInt64}

/-- A database shares with itself whatever it carries. -/
theorem Carries.shares
    (carries : first.Carries key) :
    first.Shares first key := by
  obtain ⟨symbol, member, atKey⟩ := carries
  exact ⟨symbol, member, symbol, member, atKey, symbol.sameDefinition_self⟩

/-- What is shared is carried by the one database. -/
theorem Shares.left
    (shares : first.Shares second key) :
    first.Carries key := by
  obtain ⟨symbol, member, -, -, atKey, -⟩ := shares
  exact ⟨symbol, member, atKey⟩

/-- What one database shares with another is shared by the other with the one. -/
theorem Shares.symm
    (shares : first.Shares second key) :
    second.Shares first key := by
  obtain ⟨symbol, member, other, otherMember, atKey, same⟩ := shares
  have otherKey : other.key = key :=
    (Symbol.key_eq_of_sameDefinition same).symm.trans atKey
  have sameBack : other.sameDefinition symbol = true :=
    Symbol.equivalence_sameDefinition.symm same
  exact ⟨other, otherMember, symbol, member, otherKey, sameBack⟩

end Database

namespace Merge

/--
Under each key that it and an earlier database carry, a database shares a definition with
some earlier database.
-/
def JoinsEarlier
    (earlier : List Database)
    (input : Database) :
    Prop :=
  ∀ key,
    input.Carries key →
    (∃ other ∈ earlier, other.Carries key) →
      ∃ other ∈ earlier, other.Shares input key

/-- Every input joins the earlier ones. -/
def Chained
    (inputs : List Database) :
    Prop :=
  ∀ front input rest, inputs = front ++ input :: rest → JoinsEarlier front input

/-- Any two inputs that carry a key share a definition under it. -/
def AllShare
    (inputs : List Database) :
    Prop :=
  ∀ first ∈ inputs, ∀ second ∈ inputs, ∀ key,
    first.Carries key → second.Carries key → first.Shares second key

/-- Inputs that share a definition with a third one share one with each other. -/
def SharesTransitively
    (inputs : List Database) :
    Prop :=
  ∀ first ∈ inputs, ∀ second ∈ inputs, ∀ third ∈ inputs, ∀ key,
    first.Shares second key → second.Shares third key → first.Shares third key

/-- The symbols of a kind in some inputs are the symbols of that kind in each of them. -/
theorem mem_flatten_sequences
    {inputs : List Database}
    {kind : Kind}
    {symbol : Symbol} :
    symbol ∈ (sequences inputs kind).flatten ↔
      ∃ input ∈ inputs, symbol ∈ input.symbols kind := by
  simp [sequences]

/-- A database joins earlier ones exactly if it disputes nothing of theirs. -/
theorem joinsEarlier_iff
    {earlier : List Database}
    {input : Database}
    (wellFormed : input.WellFormed) :
    JoinsEarlier earlier input ↔
      ∀ kind, disputes (sequences earlier kind).flatten (input.symbols kind) = [] := by
  constructor
  · intro joins kind
    rw [disputes_eq_nil_iff]
    intro symbol member occupied
    obtain rfl : symbol.kind = kind := wellFormed.sorted kind symbol member
    simp only [isOccupied, List.any_eq_true, mem_flatten_sequences,
      Symbol.sameKey_iff] at occupied
    obtain ⟨occupant, ⟨other, otherMember, listed⟩, sameKey⟩ := occupied
    obtain ⟨sharer, sharerMember, held, heldMember, repeated, repeatedMember, atKey,
        same⟩ :=
      joins symbol.key ⟨symbol, member, rfl⟩
        ⟨other, otherMember, occupant, listed, sameKey⟩
    rw [contributes_iff]
    refine ⟨repeated, repeatedMember, ?_, ?_⟩
    · exact (Symbol.key_eq_of_sameDefinition same).symm.trans atKey
    · exact List.any_eq_true.mpr
        ⟨held, mem_flatten_sequences.mpr ⟨sharer, sharerMember, heldMember⟩, same⟩
  · rintro undisputed key ⟨symbol, member, rfl⟩ ⟨other, otherMember, occupant, listed,
      sameKey⟩
    have occupied :
        isOccupied (sequences earlier symbol.key.1).flatten symbol = true :=
      List.any_eq_true.mpr
        ⟨occupant, mem_flatten_sequences.mpr ⟨other, otherMember, listed⟩,
          Symbol.sameKey_iff.mpr sameKey⟩
    have contributed :=
      disputes_eq_nil_iff.mp (undisputed symbol.key.1) symbol member occupied
    obtain ⟨repeated, repeatedMember, repeatedKey, isRepeated⟩ :=
      contributes_iff.mp contributed
    obtain ⟨held, heldMember, same⟩ := List.any_eq_true.mp isRepeated
    obtain ⟨sharer, sharerMember, inSharer⟩ := mem_flatten_sequences.mp heldMember
    exact ⟨sharer, sharerMember, held, inSharer, repeated, repeatedMember,
      (Symbol.key_eq_of_sameDefinition same).trans repeatedKey, same⟩

variable {inputs : List Database} {outcome : MergeOutcome}

/-- A merge is clean exactly if nothing is disputed among the symbols of any kind. -/
theorem isClean_iff_disputesAll
    (wellFormed : ∀ input ∈ inputs, input.WellFormed)
    (merged : Database.merge inputs = .ok outcome) :
    outcome.isClean = true ↔ ∀ kind, disputesAll (sequences inputs kind) [] = [] := by
  have settles := Database.settles_of_merge_ok wellFormed merged
  rw [MergeOutcome.isClean, List.isEmpty_iff, Conflict.eq_nil_iff]
  refine forall_congr' fun kind => ?_
  rw [settles.contents kind, List.map_eq_nil_iff]

/-- A merge is clean exactly if every input joins the earlier ones. -/
theorem isClean_iff_chained
    (wellFormed : ∀ input ∈ inputs, input.WellFormed)
    (merged : Database.merge inputs = .ok outcome) :
    outcome.isClean = true ↔ Chained inputs := by
  rw [isClean_iff_disputesAll wellFormed merged]
  simp only [disputesAll_eq_nil_iff]
  constructor
  · rintro undisputed front input rest rfl
    rw [joinsEarlier_iff (wellFormed input (by simp))]
    intro kind
    exact undisputed kind _ _ (sequences rest kind) (by simp)
  · intro chained kind front incoming rest shape
    obtain ⟨frontInputs, laterInputs, rfl, rfl, later⟩ :=
      List.map_eq_append_iff.mp shape
    obtain ⟨input, restInputs, rfl, rfl, rfl⟩ := List.map_eq_cons_iff.mp later
    exact (joinsEarlier_iff (wellFormed input (by simp))).mp
      (chained frontInputs input restInputs rfl) kind

/-- If any two inputs that carry a key share a definition under it, each joins the earlier. -/
theorem AllShare.chained
    (allShare : AllShare inputs) :
    Chained inputs := by
  rintro front input rest rfl key carries ⟨other, member, otherCarries⟩
  exact ⟨other, member,
    allShare other (by simp [member]) input (by simp) key otherCarries carries⟩

/-- That any two inputs share does not depend on the order. -/
theorem AllShare.perm
    {permuted : List Database}
    (allShare : AllShare inputs)
    (reordered : inputs.Perm permuted) :
    AllShare permuted := by
  intro first firstMember second secondMember
  exact allShare first (reordered.mem_iff.mpr firstMember) second
    (reordered.mem_iff.mpr secondMember)

/-- The front of chained inputs is chained. -/
theorem Chained.front
    {later : List Database}
    (chained : Chained (inputs ++ later)) :
    Chained inputs := by
  rintro front input rest rfl
  exact chained front input (rest ++ later) (by simp)

/-- Where sharing is transitive, any two of some chained inputs share. -/
theorem Chained.allShare
    (chained : Chained inputs)
    (transitive : SharesTransitively inputs) :
    AllShare inputs := by
  induction inputs using List.reverseRecOn with
  | nil =>
      intro first member
      cases member
  | append_singleton front last inductionHypothesis =>
      have frontShare : AllShare front := by
        refine inductionHypothesis chained.front ?_
        intro first firstMember second secondMember third thirdMember
        exact transitive first (by simp [firstMember]) second (by simp [secondMember])
          third (by simp [thirdMember])
      -- The last input shares with one in front, which shares with all others in front.
      have sharesLast :
          ∀ first ∈ front, ∀ key,
            first.Carries key → last.Carries key → first.Shares last key := by
        intro first member key carries lastCarries
        obtain ⟨other, otherMember, shares⟩ :=
          chained front last [] rfl key lastCarries ⟨first, member, carries⟩
        exact transitive first (by simp [member]) other (by simp [otherMember]) last
          (by simp) key
          (frontShare first member other otherMember key carries shares.left) shares
      intro first firstMember second secondMember key firstCarries secondCarries
      rcases List.mem_append.mp firstMember with inFront | isLast
      · rcases List.mem_append.mp secondMember with alsoInFront | isLast
        · exact frontShare first inFront second alsoInFront key firstCarries
            secondCarries
        · obtain rfl := List.mem_singleton.mp isLast
          exact sharesLast first inFront key firstCarries secondCarries
      · obtain rfl := List.mem_singleton.mp isLast
        rcases List.mem_append.mp secondMember with inFront | alsoLast
        · exact (sharesLast second inFront key secondCarries firstCarries).symm
        · obtain rfl := List.mem_singleton.mp alsoLast
          exact firstCarries.shares

/-- Two databases are chained exactly if they share whatever they both carry. -/
theorem chained_pair_iff
    {first second : Database} :
    Chained [first, second] ↔
      ∀ key, first.Carries key → second.Carries key → first.Shares second key := by
  constructor
  · intro chained key firstCarries secondCarries
    obtain ⟨other, member, shares⟩ :=
      chained [first] second [] rfl key secondCarries ⟨first, by simp, firstCarries⟩
    obtain rfl := List.mem_singleton.mp member
    exact shares
  · intro share
    refine AllShare.chained ?_
    intro one oneMember other otherMember key oneCarries otherCarries
    simp only [List.mem_cons, List.not_mem_nil, or_false] at oneMember otherMember
    rcases oneMember with rfl | rfl <;> rcases otherMember with rfl | rfl
    · exact oneCarries.shares
    · exact share key oneCarries otherCarries
    · exact (share key otherCarries oneCarries).symm
    · exact oneCarries.shares

/-- Inputs are chained in every order exactly if any two of them share. -/
theorem forall_perm_chained_iff :
    (∀ permuted, inputs.Perm permuted → Chained permuted) ↔ AllShare inputs := by
  constructor
  · intro chained first firstMember second secondMember key firstCarries secondCarries
    by_cases same : first = second
    · subst same
      exact firstCarries.shares
    · have secondLeft : second ∈ inputs.erase first :=
        (List.mem_erase_of_ne (Ne.symm same)).mpr secondMember
      -- In an order that starts with the two, the second has only the first to share with.
      have reordered :
          inputs.Perm (first :: second :: (inputs.erase first).erase second) :=
        (List.perm_cons_erase firstMember).trans
          ((List.perm_cons_erase secondLeft).cons first)
      obtain ⟨other, member, shares⟩ :=
        chained _ reordered [first] second _ rfl key secondCarries
          ⟨first, by simp, firstCarries⟩
      obtain rfl := List.mem_singleton.mp member
      exact shares
  · intro allShare permuted reordered
    exact (allShare.perm reordered).chained

end Merge

end SymbolDatabase
