import Mathlib.Data.List.Forall2
import SymbolDatabase.Command

namespace SymbolDatabase

/-!
# What a merge command tells

A merge command tells each conflict in a line of its own, in the order of the conflicts.
The line names the kind of the symbol, its text and hash, the identifier of an overload, and
the two inputs that disagree.  It is one line indeed, as texts are quoted: it breaks only if
the label of one of the inputs does.  Behind these lines stands an error if the command
fails, and nothing if it succeeds.
-/

namespace Hexadecimal

/-- No digit is a line break. -/
theorem lineBreak_not_mem_digits
    (number : Nat) :
    '\n' ∉ digits number := by
  unfold digits
  induction number using Nat.strongRecOn with
  | ind number inductionHypothesis =>
      by_cases small : number < 16
      · rw [Nat.toDigits_of_lt_base small]
        simp
      · have large : 16 ≤ number := Nat.le_of_not_lt small
        rw [Nat.toDigits_of_base_le (by decide) large, List.mem_append, not_or]
        have smaller : number / 16 < number :=
          Nat.div_lt_self (by omega) (by decide)
        exact ⟨inductionHypothesis _ smaller, by simp⟩

/-- A hash or an identifier breaks no line. -/
theorem lineBreak_not_mem_ofWord
    (word : UInt64) :
    '\n' ∉ (ofWord word).toList := by
  simp [ofWord, padded, List.leftpad, lineBreak_not_mem_digits]

end Hexadecimal

namespace Quoted

/-- No character is shown as a line break. -/
theorem lineBreak_not_mem_encodeCharacter
    (character : Char) :
    '\n' ∉ encodeCharacter character := by
  by_cases isLineBreak : character = '\n'
  · subst isLineBreak
    decide
  · unfold encodeCharacter
    split
    -- The last case is that of all characters without a short form.
    case h_7 =>
      split
      · simp [byCodePoint, Hexadecimal.lineBreak_not_mem_digits]
      · simpa using Ne.symm isLineBreak
    all_goals
      decide

/-- A quoted text breaks no line. -/
theorem lineBreak_not_mem_quote
    (text : String) :
    '\n' ∉ (quote text).toList := by
  simp [quote, lineBreak_not_mem_encodeCharacter]

end Quoted

/-- The label of a kind breaks no line. -/
theorem Kind.lineBreak_not_mem_label
    (kind : Kind) :
    '\n' ∉ kind.label.toList := by
  cases kind <;> decide

namespace Conflict

/-- A line tells a conflict: which symbol it is about, and which inputs define it. -/
structure IsToldBy
    (conflict : Conflict)
    (line : String) :
    Prop where
  spelled :
    ∃ note,
      line =
          "conflict: " ++ conflict.kind.label ++ " " ++ Quoted.quote conflict.name.text ++
            " [" ++ Hexadecimal.ofWord conflict.name.hash ++ "]" ++ note ++
            " defined differently in " ++ conflict.kept.source ++ " and " ++
            conflict.rejected.source ∧
        (conflict.identifier = none → note = "") ∧
        ∀ identifier,
          conflict.identifier = some identifier →
            note = " uid=" ++ Hexadecimal.ofWord identifier
  unbroken :
    '\n' ∈ line.toList →
      '\n' ∈ conflict.kept.source.toList ∨ '\n' ∈ conflict.rejected.source.toList

/-- A message breaks only inside the label of an input. -/
theorem lineBreak_mem_message
    (conflict : Conflict)
    (broken : '\n' ∈ conflict.message.toList) :
    '\n' ∈ conflict.kept.source.toList ∨ '\n' ∈ conflict.rejected.source.toList := by
  cases found : conflict.identifier <;>
    simpa [message, found, Hexadecimal.lineBreak_not_mem_ofWord,
      Quoted.lineBreak_not_mem_quote, Kind.lineBreak_not_mem_label] using broken

/-- The message of a conflict tells it. -/
theorem isToldBy_message
    (conflict : Conflict) :
    conflict.IsToldBy ("conflict: " ++ conflict.message) where
  spelled := by
    cases found : conflict.identifier with
    | none =>
        refine ⟨"", ?_, fun _ => rfl, nofun⟩
        simp [message, found, String.append_assoc]
    | some identifier =>
        refine ⟨" uid=" ++ Hexadecimal.ofWord identifier, ?_, nofun, ?_⟩
        · simp [message, found, String.append_assoc]
        · rintro _ ⟨⟩
          rfl
  unbroken broken :=
    conflict.lineBreak_mem_message (by simpa using broken)

/-- No other line tells a conflict. -/
theorem IsToldBy.eq_message
    {conflict : Conflict}
    {line : String}
    (told : conflict.IsToldBy line) :
    line = "conflict: " ++ conflict.message := by
  obtain ⟨note, rfl, without, noted⟩ := told.spelled
  cases found : conflict.identifier with
  | none =>
      simp [message, without found, found, String.append_assoc]
  | some identifier =>
      simp [message, noted identifier found, found, String.append_assoc]

end Conflict

/-- A text tells conflicts: it has one line for each of them, in their order. -/
def Command.TellsConflicts
    (conflicts : List Conflict)
    (text : String) :
    Prop :=
  ∃ lines,
    List.Forall₂ Conflict.IsToldBy conflicts lines ∧
      text = String.join (lines.map fun line => line ++ "\n")

/-- The lines that tell conflicts are their messages. -/
theorem Conflict.forall₂_isToldBy_iff
    {conflicts : List Conflict}
    {lines : List String} :
    List.Forall₂ IsToldBy conflicts lines ↔
      (conflicts.map fun conflict => "conflict: " ++ conflict.message) = lines := by
  rw [← List.forall₂_eq_eq_eq, List.forall₂_map_left_iff]
  constructor
  · exact List.Forall₂.imp fun _ _ told => told.eq_message.symm
  · refine List.Forall₂.imp fun conflict _ same => ?_
    exact same ▸ conflict.isToldBy_message

/-- The warnings of a merge tell its conflicts, and no other text does. -/
theorem Command.tellsConflicts_iff
    {conflicts : List Conflict}
    {text : String} :
    TellsConflicts conflicts text ↔ text = conflictLines conflicts := by
  have written :
      conflictLines conflicts =
        String.join
          ((conflicts.map fun conflict => "conflict: " ++ conflict.message).map
            fun line => line ++ "\n") := by
    rw [List.map_map]
    rfl
  constructor
  · rintro ⟨lines, told, rfl⟩
    rw [written, Conflict.forall₂_isToldBy_iff.mp told]
  · rintro rfl
    exact ⟨_, Conflict.forall₂_isToldBy_iff.mpr rfl, written⟩

namespace Report

/-- A report tells warnings first, and then an error exactly if it is one of a failure. -/
def TellsFirst
    (report : Report)
    (warnings : String) :
    Prop :=
  ∃ rest,
    report.errors = warnings ++ rest ∧
      (report.exitCode = 0 → rest = "") ∧
      (report.exitCode ≠ 0 → ∃ text, rest = "Error: " ++ text ++ "\n")

theorem tellsFirst_success
    (warnings output : String) :
    (success warnings output).TellsFirst warnings :=
  ⟨"", String.append_empty.symm, fun _ => rfl, fun failed => (failed rfl).elim⟩

theorem exitCode_failure
    (warnings text : String)
    (behind : List String) :
    (failure warnings text behind).exitCode ≠ 0 :=
  Nat.one_ne_zero

theorem tellsFirst_failure
    (warnings text : String)
    (behind : List String) :
    (failure warnings text behind).TellsFirst warnings :=
  ⟨line ("Error: " ++ text ++ causes behind), rfl,
    fun succeeded => (exitCode_failure warnings text behind succeeded).elim,
    fun _ => ⟨text ++ causes behind, by simp [line, String.append_assoc]⟩⟩

end Report

end SymbolDatabase
