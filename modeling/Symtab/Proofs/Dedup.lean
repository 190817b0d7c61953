import Symtab.Dedup

/-!
# First occurrences

The first symbols of the declarations in a list form a part of the list in which no declaration
comes twice. Symbols that are appended to a list cannot change what is kept of it, and what is left
out has a symbol of the same declaration kept before it.
-/

set_option autoImplicit false

namespace Symtab

theorem dedupAfter_sublist (seen : List Symbol.Key) (symbols : List Symbol) :
    (dedupAfter seen symbols).Sublist symbols := by
  induction symbols generalizing seen with
  | nil => exact .slnil
  | cons symbol rest ih =>
    unfold dedupAfter
    split
    · exact .cons symbol (ih seen)
    · exact .cons_cons symbol (ih (symbol.key :: seen))

theorem dedup_sublist (symbols : List Symbol) : (dedup symbols).Sublist symbols :=
  dedupAfter_sublist [] symbols

private theorem key_not_mem_of_mem_dedupAfter {seen : List Symbol.Key} {symbols : List Symbol}
    {symbol : Symbol} (kept : symbol ∈ dedupAfter seen symbols) : symbol.key ∉ seen := by
  induction symbols generalizing seen with
  | nil => cases kept
  | cons first rest ih =>
    unfold dedupAfter at kept
    split at kept
    · exact ih kept
    · next unseen =>
      rcases List.mem_cons.mp kept with rfl | later
      · simpa using unseen
      · have fresh := ih later
        exact fun member => fresh (List.mem_cons_of_mem first.key member)

private theorem pairwise_dedupAfter (seen : List Symbol.Key) (symbols : List Symbol) :
    (dedupAfter seen symbols).Pairwise fun first second => first.key ≠ second.key := by
  induction symbols generalizing seen with
  | nil => exact .nil
  | cons symbol rest ih =>
    unfold dedupAfter
    split
    · exact ih seen
    · refine .cons ?_ (ih (symbol.key :: seen))
      intro later kept same
      exact key_not_mem_of_mem_dedupAfter kept (same ▸ List.mem_cons_self)

theorem pairwise_dedup (symbols : List Symbol) :
    (dedup symbols).Pairwise fun first second => first.key ≠ second.key :=
  pairwise_dedupAfter [] symbols

/-- What is kept of a list does not depend on what follows it; what follows is read with the kept
declarations seen. -/
theorem dedupAfter_append (seen : List Symbol.Key) (symbols more : List Symbol) :
    dedupAfter seen (symbols ++ more) =
      dedupAfter seen symbols ++ dedupAfter
        (((dedupAfter seen symbols).map Symbol.key).reverse ++ seen) more := by
  induction symbols generalizing seen with
  | nil => rfl
  | cons symbol rest ih =>
    rw [List.cons_append, dedupAfter, dedupAfter]
    split
    · exact ih seen
    · rw [ih (symbol.key :: seen)]
      simp

theorem dedup_append (symbols more : List Symbol) :
    dedup (symbols ++ more) =
      dedup symbols ++ dedupAfter ((dedup symbols).map Symbol.key).reverse more := by
  simpa only [dedup, List.append_nil] using dedupAfter_append [] symbols more

theorem exists_mem_dedupAfter {before : Symbol → Symbol → Prop}
    (itself : ∀ symbol, before symbol symbol) {seen : List Symbol.Key} {symbols : List Symbol}
    (ordered : symbols.Pairwise before) {symbol : Symbol} (member : symbol ∈ symbols)
    (unseen : symbol.key ∉ seen) :
    ∃ kept ∈ dedupAfter seen symbols, kept.key = symbol.key ∧ before kept symbol := by
  induction symbols generalizing seen with
  | nil => cases member
  | cons first rest ih =>
    obtain ⟨above, restOrdered⟩ := List.pairwise_cons.mp ordered
    by_cases same : first.key = symbol.key
    · -- The first of the declaration is kept, as its key has not been seen.
      have fresh : seen.contains first.key = false := by simpa [same] using unseen
      have least : before first symbol := by
        rcases List.mem_cons.mp member with rfl | later
        · exact itself symbol
        · exact above symbol later
      refine ⟨first, ?_, same, least⟩
      rw [dedupAfter, fresh]
      exact List.mem_cons_self
    · have later : symbol ∈ rest := by
        rcases List.mem_cons.mp member with rfl | later
        · exact absurd rfl same
        · exact later
      rw [dedupAfter]
      split
      · exact ih restOrdered later unseen
      · have unseenStill : symbol.key ∉ first.key :: seen := by simp [Ne.symm same, unseen]
        obtain ⟨kept, keptMember, holds⟩ := ih restOrdered later unseenStill
        exact ⟨kept, List.mem_cons_of_mem first keptMember, holds⟩

/-- Of symbols in the order of their lines, each has one of its declaration kept that stands no
later. -/
theorem exists_mem_dedup {symbols : List Symbol}
    (ordered : symbols.Pairwise fun first second => first.line ≤ second.line) {symbol : Symbol}
    (member : symbol ∈ symbols) :
    ∃ kept ∈ dedup symbols, kept.key = symbol.key ∧ kept.line ≤ symbol.line :=
  exists_mem_dedupAfter (fun symbol => Nat.le_refl symbol.line) ordered member List.not_mem_nil

end Symtab
