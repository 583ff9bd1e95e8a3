import SymbolDatabase.Proofs.Command
import SymbolDatabase.Proofs.Merge.Commutation

namespace SymbolDatabase

/-!
# What the order of the inputs decides

Whether a merge is clean can depend on the order of its inputs.  A unit that shares a
definition with each of two others lets both of them in when it comes between them, but
not when it comes last.  Only such bridges make a difference: where any two inputs that
share a definition with a third one share one with each other, all orders are clean or
none is.
-/

namespace Merge

variable {inputs permuted : List Database}

/-- That sharing is transitive does not depend on the order. -/
theorem SharesTransitively.perm
    (transitive : SharesTransitively inputs)
    (reordered : inputs.Perm permuted) :
    SharesTransitively permuted := by
  simpa only [SharesTransitively, reordered.mem_iff] using transitive

/-- Among two inputs, sharing is transitive. -/
theorem sharesTransitively_pair
    (first second : Database) :
    SharesTransitively [first, second] := by
  intro one oneMember bridge bridgeMember other otherMember key oneShares bridgeShares
  have oneCarries : one.Carries key := oneShares.left
  simp only [List.mem_cons, List.not_mem_nil, or_false]
    at oneMember bridgeMember otherMember
  rcases oneMember with rfl | rfl <;> rcases otherMember with rfl | rfl
  · exact oneCarries.shares
  · rcases bridgeMember with rfl | rfl
    · exact bridgeShares
    · exact oneShares
  · rcases bridgeMember with rfl | rfl
    · exact oneShares
    · exact bridgeShares
  · exact oneCarries.shares

/-- Where sharing is transitive, inputs in another order are chained as well. -/
theorem Chained.perm
    (chained : Chained inputs)
    (transitive : SharesTransitively inputs)
    (reordered : inputs.Perm permuted) :
    Chained permuted :=
  ((chained.allShare transitive).perm reordered).chained

/-- Where any two inputs share, sharing is transitive. -/
theorem AllShare.sharesTransitively
    (allShare : AllShare inputs) :
    SharesTransitively inputs := by
  intro first firstMember bridge _ second secondMember key firstShares bridgeShares
  exact allShare first firstMember second secondMember key firstShares.left
    bridgeShares.symm.left

/-- Databases among some that can be merged are merged cleanly exactly if chained. -/
theorem forall_isClean_iff_chained
    {some : List Database}
    {outcome : MergeOutcome}
    (wellFormed : ∀ input ∈ inputs, input.WellFormed)
    (merged : Database.merge inputs = .ok outcome)
    (subset : some ⊆ inputs) :
    (∀ other, Database.merge some = .ok other → other.isClean = true) ↔ Chained some := by
  obtain ⟨other, otherMerged⟩ := Database.exists_merge_of_subset merged subset
  rw [← isClean_iff_chained (fun input member => wellFormed input (subset member))
    otherMerged]
  constructor
  · intro clean
    exact clean other otherMerged
  · intro isClean same sameMerged
    rw [otherMerged] at sameMerged
    rwa [← Except.ok.inj sameMerged]

/-- Any two inputs share exactly if any two of them merge cleanly. -/
theorem allShare_iff_pairs_clean
    {outcome : MergeOutcome}
    (wellFormed : ∀ input ∈ inputs, input.WellFormed)
    (merged : Database.merge inputs = .ok outcome) :
    AllShare inputs ↔
      ∀ first ∈ inputs, ∀ second ∈ inputs,
        ∀ pair, Database.merge [first, second] = .ok pair → pair.isClean = true := by
  refine forall₂_congr fun first firstMember => forall₂_congr fun second secondMember => ?_
  have subset : [first, second] ⊆ inputs := by
    simp [firstMember, secondMember]
  rw [forall_isClean_iff_chained wellFormed merged subset, chained_pair_iff]

end Merge

namespace Command

open Merge

/-- A merge command succeeds over inputs in another order if it does in the one. -/
theorem exitCode_runMerge_perm
    {view : FileView}
    {paths permutedPaths : List String}
    {inputs permuted : List Database}
    (tree : FileTree)
    (out : String)
    (loaded : loadInputs view paths = .ok inputs)
    (permutedLoaded : loadInputs view permutedPaths = .ok permuted)
    (reordered : inputs.Perm permuted)
    (transitive : SharesTransitively inputs)
    (encodes :
      ∀ other,
        Database.merge permuted = .ok other →
          ∃ content, other.database.fileContent out = .ok content)
    (succeeds : ((runMerge view out paths false).perform tree).1.exitCode = 0) :
    ((runMerge view out permutedPaths false).perform tree).1.exitCode = 0 := by
  have wellFormed : ∀ input ∈ inputs, input.WellFormed :=
    fun input member => (reachable_of_loadInputs loaded input member).wellFormed
  have permutedWellFormed : ∀ input ∈ permuted, input.WellFormed :=
    fun input member => wellFormed input (reordered.mem_iff.mpr member)
  obtain ⟨outcome, content, merged, isClean, -, saved⟩ :=
    (exitCode_runMerge tree out false loaded).2.mp succeeds
  have chained : Chained inputs :=
    (isClean_iff_chained wellFormed merged).mp (by simpa using isClean)
  obtain ⟨other, otherMerged⟩ :=
    Database.exists_merge_of_subset merged reordered.symm.subset
  have otherIsClean : other.isClean = true :=
    (isClean_iff_chained permutedWellFormed otherMerged).mpr
      (chained.perm transitive reordered)
  obtain ⟨otherContent, encoded⟩ := encodes other otherMerged
  rw [(exitCode_runMerge tree out false permutedLoaded).2]
  refine ⟨other, otherContent, otherMerged, Or.inl otherIsClean, encoded, ?_⟩
  rw [tree.save_fst_congr out otherContent content, saved]

end Command

open Merge

/--
Whether a merge is clean depends on the order of its inputs only through whom each of them
shares a definition with.  It is clean exactly if every input joins the earlier ones; every
order is clean exactly if any two of the inputs merge cleanly; and where sharing is
transitive, all orders agree, so that a merge command that does not allow conflicts exits
alike for all orders of its arguments, unless a merge is too large for the file format.
-/
theorem merge_verdict_permuted :
    (∀ inputs outcome,
      (∀ input ∈ inputs, input.Reachable) →
      Database.merge inputs = .ok outcome →
        (outcome.isClean = true ↔ Chained inputs) ∧
          ((∀ permuted, inputs.Perm permuted →
            ∀ other, Database.merge permuted = .ok other → other.isClean = true) ↔
            ∀ first ∈ inputs, ∀ second ∈ inputs,
              ∀ pair, Database.merge [first, second] = .ok pair → pair.isClean = true) ∧
          ∀ permuted,
            inputs.Perm permuted →
              ∃ other,
                Database.merge permuted = .ok other ∧
                  (SharesTransitively inputs →
                    (outcome.isClean = true ↔ other.isClean = true))) ∧
      ∀ (tree : FileTree) (out : String) (paths permutedPaths : List String) inputs,
        Command.loadInputs tree.openPath paths = .ok inputs →
        SharesTransitively inputs →
        paths.Perm permutedPaths →
        (∀ permuted other,
          inputs.Perm permuted →
          Database.merge permuted = .ok other →
            ∃ content, other.database.fileContent out = .ok content) →
          ((Command.merge out paths false).run tree).1.exitCode =
            ((Command.merge out permutedPaths false).run tree).1.exitCode := by
  constructor
  · intro inputs outcome reachable merged
    have wellFormed : ∀ input ∈ inputs, input.WellFormed :=
      fun input member => (reachable input member).wellFormed
    have isCleanIff := isClean_iff_chained wellFormed merged
    refine ⟨isCleanIff, ?_, ?_⟩
    · calc
        (∀ permuted, inputs.Perm permuted →
            ∀ other, Database.merge permuted = .ok other → other.isClean = true) ↔
            ∀ permuted, inputs.Perm permuted → Chained permuted :=
          forall₂_congr fun permuted reordered =>
            forall_isClean_iff_chained wellFormed merged reordered.symm.subset
        _ ↔ AllShare inputs :=
          forall_perm_chained_iff
        _ ↔ ∀ first ∈ inputs, ∀ second ∈ inputs,
              ∀ pair, Database.merge [first, second] = .ok pair → pair.isClean = true :=
          allShare_iff_pairs_clean wellFormed merged
    · intro permuted reordered
      have permutedWellFormed : ∀ input ∈ permuted, input.WellFormed :=
        fun input member => wellFormed input (reordered.mem_iff.mpr member)
      obtain ⟨other, otherMerged⟩ :=
        Database.exists_merge_of_subset merged reordered.symm.subset
      refine ⟨other, otherMerged, fun transitive => ?_⟩
      rw [isCleanIff, isClean_iff_chained permutedWellFormed otherMerged]
      exact
        ⟨fun chained => chained.perm transitive reordered,
          fun chained => chained.perm (transitive.perm reordered) reordered.symm⟩
  · intro tree out paths permutedPaths inputs loaded transitive reordered encodes
    obtain ⟨permuted, permutedLoaded, permutation⟩ :=
      Command.exists_loadInputs_of_perm loaded reordered
    -- The exit codes are zero or one, so it is enough that success carries over both ways.
    have bounded := (Command.exitCode_runMerge tree out false loaded).1
    have permutedBounded := (Command.exitCode_runMerge tree out false permutedLoaded).1
    have onward :=
      Command.exitCode_runMerge_perm tree out loaded permutedLoaded permutation
        transitive (encodes permuted · permutation)
    have back :=
      Command.exitCode_runMerge_perm tree out permutedLoaded loaded permutation.symm
        (transitive.perm permutation) (encodes inputs · (.refl _))
    simp only [Command.run, Command.outcome]
    omega

namespace Merge

/-- A unit that shares a constant with each of two others, which share none, between them. -/
def bridgedUnits : List Database :=
  let first : Symbol := ⟨7, 1, .enumerator 0⟩
  let second : Symbol := ⟨7, 2, .enumerator 3⟩
  [addedUnit [first], addedUnit [first, second], addedUnit [second]]

theorem bridgedUnits_reachable :
    ∀ input ∈ bridgedUnits, input.Reachable := by
  simp [bridgedUnits, reachable_addedUnit]

theorem bridgedUnits_distinct :
    ∀ input ∈ bridgedUnits, input.Distinct := by
  intro input member kind
  simp only [bridgedUnits, List.mem_cons, List.not_mem_nil, or_false] at member
  rcases member with rfl | rfl | rfl <;> cases kind <;> decide

/-- The first two of the units as documents in one directory. -/
def bridgeTree : FileTree :=
  ⟨[ (Place.here.child "first.json", .file bridgedUnits[0].toDocument),
     (Place.here.child "bridge.json", .file bridgedUnits[1].toDocument) ]⟩

end Merge

/--
The units merge cleanly when the one that shares with both others comes between them, and
not when it comes last.
-/
theorem not_merge_verdict_permuted_bridgedUnits :
    (∀ input ∈ bridgedUnits, input.Reachable ∧ input.Distinct) ∧
      bridgedUnits.Perm (bridgedUnits.rotate 2) ∧
      ∃ outcome other,
        Database.merge bridgedUnits = .ok outcome ∧
          Database.merge (bridgedUnits.rotate 2) = .ok other ∧
          outcome.isClean = true ∧
          other.isClean = false :=
  ⟨fun input member =>
      ⟨bridgedUnits_reachable input member, bridgedUnits_distinct input member⟩,
    (List.rotate_perm bridgedUnits 2).symm, _, _, rfl, rfl, rfl, rfl⟩

/--
Three units of which any two merge cleanly do so in every order; and so the command exits
alike for two units in either order.
-/
theorem merge_verdict_permuted_agreeingUnits :
    (∀ permuted,
      agreeingUnits.Perm permuted →
        ∃ other, Database.merge permuted = .ok other ∧ other.isClean = true) ∧
      ((Command.merge "all.json" ["first.json", "bridge.json"] false).run
          bridgeTree).1.exitCode =
        ((Command.merge "all.json" ["bridge.json", "first.json"] false).run
          bridgeTree).1.exitCode := by
  constructor
  · obtain ⟨outcome, merged, isClean⟩ :
        ∃ outcome, Database.merge agreeingUnits = .ok outcome ∧ outcome.isClean = true :=
      ⟨_, rfl, rfl⟩
    have pairsClean :
        ∀ first ∈ agreeingUnits, ∀ second ∈ agreeingUnits,
          ∀ pair, Database.merge [first, second] = .ok pair → pair.isClean = true := by
      intro first firstMember second secondMember pair pairMerged
      simp only [agreeingUnits, List.mem_cons, List.not_mem_nil, or_false]
        at firstMember secondMember
      rcases firstMember with rfl | rfl | rfl <;>
        rcases secondMember with rfl | rfl | rfl <;>
        exact Except.ok.inj pairMerged ▸ rfl
    have wellFormed : ∀ input ∈ agreeingUnits, input.WellFormed :=
      fun input member => (agreeingUnits_reachable input member).wellFormed
    have allShare : AllShare agreeingUnits :=
      (allShare_iff_pairs_clean wellFormed merged).mpr pairsClean
    obtain ⟨-, -, reordered⟩ :=
      merge_verdict_permuted.1 agreeingUnits outcome agreeingUnits_reachable merged
    intro permuted permutation
    obtain ⟨other, otherMerged, sameVerdict⟩ := reordered permuted permutation
    exact ⟨other, otherMerged, (sameVerdict allShare.sharesTransitively).mp isClean⟩
  · have firstLoaded :
        Database.load bridgeTree.openPath "first.json" =
          .ok bridgedUnits[0].trimmed :=
      Database.load_toDocument rfl (by decide) (bridgedUnits_reachable _ (by simp))
        (by decide)
    have bridgeLoaded :
        Database.load bridgeTree.openPath "bridge.json" =
          .ok bridgedUnits[1].trimmed :=
      Database.load_toDocument rfl (by decide) (bridgedUnits_reachable _ (by simp))
        (by decide)
    have loaded :=
      Command.loadInputs_eq_ok_iff.mpr
        (.cons ⟨_, firstLoaded, rfl⟩ (.cons ⟨_, bridgeLoaded, rfl⟩ .nil))
    refine merge_verdict_permuted.2 bridgeTree "all.json" _ _ _ loaded
      (sharesTransitively_pair _ _) (.swap _ _ _) ?_
    intro permuted other reordered merged
    exact ⟨other.database.toDocument, rfl⟩

end SymbolDatabase
