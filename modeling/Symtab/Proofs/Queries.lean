import Symtab.Proofs.FirstOccurrences
import Symtab.Proofs.StableSort

/-!
# What a query answers

The answer to a query is the one stable ordering of the symbols that it chooses. As a query chooses
by name, scope and kind alone, which is what identifies a declaration, it does not matter whether
repeated declarations are left out before or after choosing.
-/

set_option autoImplicit false

namespace Symtab

namespace Query

private theorem apply_apply (query : Query) (symbols : List Symbol) :
    query.apply (query.apply symbols) = query.apply symbols := by
  have chosen : (query.apply symbols).filter query.chooses = query.apply symbols := by
    rw [apply, sortSymbols_filter, List.filter_filter]
    simp only [Bool.and_self]
  rw [apply, chosen, apply, sortSymbols_sortSymbols]

/-- A query reads of a symbol only what identifies its declaration. -/
theorem chooses_eq_of_key_eq (query : Query) {first second : Symbol}
    (same : first.key = second.key) :
    query.chooses first = query.chooses second := by
  obtain ⟨name, scope, kind⟩ := Symbol.Key.mk.inj same
  have mentioned (term : List Char) : first.mentions term = second.mentions term := by
    rw [Symbol.mentions, Symbol.mentions, name, scope]
  rw [chooses, chooses, kind]
  cases query.term? with
  | none => rfl
  | some term => exact congrArg (query.choosesKind second.kind && ·) (mentioned term)

private theorem filter_chooses_dedup (query : Query) (symbols : List Symbol) :
    (dedup symbols).filter query.chooses = dedup (symbols.filter query.chooses) :=
  filter_dedup (fun _ _ same => query.chooses_eq_of_key_eq same) symbols

/-- The answer to a query is the only stable ordering of the symbols that the query chooses, as
comparing by a column is a total preorder in either direction. So answering twice changes nothing,
and symbols may be left out before or after they are put in order. -/
theorem apply_unique_stable_ordering (query : Query) (symbols : List Symbol) :
    (∀ result, IsStableOrdering (Symbol.compareBy query.sort query.order)
      (symbols.filter query.chooses) result ↔
      result = query.apply symbols) ∧
    (∀ (key : SortKey) (order : SortOrder) (first second third : Symbol),
      first.compareBy key order first = .eq ∧
      second.compareBy key order first = (first.compareBy key order second).swap ∧
      (first.compareBy key order second ≠ .gt → second.compareBy key order third ≠ .gt →
        first.compareBy key order third ≠ .gt)) ∧
    query.apply (query.apply symbols) = query.apply symbols ∧
    ∀ (key : SortKey) (order : SortOrder) (keep : Symbol → Bool),
      (sortSymbols key order symbols).filter keep =
        sortSymbols key order (symbols.filter keep) := by
  refine ⟨fun result => isStableOrdering_iff, fun key order first second third => ?_,
    query.apply_apply symbols, fun key order keep => sortSymbols_filter key order keep symbols⟩
  exact ⟨Std.ReflCmp.compare_self, Std.OrientedCmp.eq_swap, ne_gt_trans⟩

/-- Choosing symbols and leaving out repeated declarations can be done in either order. -/
theorem apply_dedup (query : Query) (symbols : List Symbol) :
    (dedup symbols).filter query.chooses = dedup (symbols.filter query.chooses) ∧
    query.apply (dedup symbols) =
      sortSymbols query.sort query.order (dedup (symbols.filter query.chooses)) := by
  refine ⟨query.filter_chooses_dedup symbols, ?_⟩
  rw [apply, query.filter_chooses_dedup]

end Query

end Symtab
