import Symtab.Proofs.Excerpt
import Symtab.Proofs.LeadingWords

/-!
# Whole words in the head of a declaration

A line is cut at every character that cannot stand in an identifier. The pieces are exactly the runs
of identifier characters that cannot be made longer on either side, so looking a word up among them
finds its whole occurrences, wherever they stand. In a declaration with an initial value only what
stands before the value is looked at.
-/

set_option autoImplicit false

namespace Symtab

private theorem hasWord_iff {word : String}
    (spelled : ∀ c ∈ word.toList, Text.isIdentifierChar c = true) (line : List Char) :
    hasWord line word = true ↔ Text.StandsBetween (!Text.isIdentifierChar ·) line word.toList := by
  rw [hasWord, List.contains_iff_mem]
  exact Text.mem_splitOnP_iff fun c member => by rw [spelled c member, Bool.not_true]

/-- A word is found in a line if and only if it occurs there with no letter, number or underscore
right before it and none right after it; and what follows the first equals sign of a declaration is
not looked at. -/
theorem whole_word_found (word : String)
    (spelled : ∀ c ∈ word.toList, Text.isIdentifierChar c = true) :
    (∀ line, hasWord line word = true ↔
      ∃ before after, line = before ++ (word.toList ++ after) ∧
        (∀ c ∈ before.getLast?, Text.isAlphanumeric c = false ∧ c ≠ '_') ∧
        ∀ c ∈ after.head?, Text.isAlphanumeric c = false ∧ c ≠ '_') ∧
    ∀ head value, '=' ∉ head →
    hasWord (declarationHead (head ++ '=' :: value)) word = hasWord head word := by
  have outside :
      ∀ c, (!Text.isIdentifierChar c) = true ↔ Text.isAlphanumeric c = false ∧ c ≠ '_' := by
    intro c
    rw [Text.isIdentifierChar, Bool.not_or, Bool.and_eq_true, Bool.not_eq_true', Bool.not_eq_true',
      beq_eq_false_iff_ne]
  constructor
  · intro line
    rw [hasWord_iff spelled line]
    simp only [Text.StandsBetween, outside]
  · intro head value absent
    rw [declarationHead_append absent value]

/-- The word stands in the value, and in the name it is only a part of a word. -/
theorem final_not_found_in_value :
    (∀ c ∈ "final".toList, Text.isIdentifierChar c = true) ∧ '=' ∉ "int finalCount ".toList ∧
      hasWord (declarationHead "int finalCount = final;".toList) "final" = false ∧
      hasWord "x=final;".toList "final" = true := by
  have spelled : ∀ c ∈ "final".toList, Text.isIdentifierChar c = true := by decide
  have absent : '=' ∉ "int finalCount ".toList := by decide
  obtain ⟨occurs, headOnly⟩ := whole_word_found "final" spelled
  refine ⟨spelled, absent, ?_, (occurs _).mpr ⟨"x=".toList, [';'], by decide, by decide, by decide⟩⟩
  have same :
      "int finalCount = final;".toList = "int finalCount ".toList ++ '=' :: " final;".toList := by
    decide
  rw [same, headOnly _ _ absent]
  decide +kernel

end Symtab
