import Mathlib.Data.List.Induction
import Symtab.Proofs.Dedup

/-!
# Which symbols are first occurrences

The symbols that are kept of a list are those at the positions before which their declaration does
not occur. What has been seen when a symbol is read matters only as a set of declarations: those
that the list before it declares. So the symbols kept of two lists after one another are those kept
of the first and, of those kept of the second, the ones that the first does not declare, and symbols
may be chosen by what identifies them before or after repeated ones are left out.
-/

set_option autoImplicit false

namespace Symtab

/-- No position before the given one holds a symbol of the same declaration. -/
def IsFirstAt (symbols : List Symbol) (position : Nat) : Prop :=
  ∀ earlier < position, symbols[earlier]?.map Symbol.key ≠ symbols[position]?.map Symbol.key

instance (symbols : List Symbol) (position : Nat) : Decidable (IsFirstAt symbols position) :=
  inferInstanceAs (Decidable (∀ earlier < position, _))

/-- The symbols at the positions that are the first of their declaration, in the order of the
positions. -/
def firstOccurrences (symbols : List Symbol) : List Symbol :=
  (symbols.zipIdx.filter fun entry => decide (IsFirstAt symbols entry.2)).map Prod.fst

/-!
## What has been seen
-/

/-- Having seen more leaves out what is of a declaration seen in addition. -/
theorem dedupAfter_eq_filter {seen before added : List Symbol.Key}
    (split : ∀ key, key ∈ seen ↔ key ∈ added ∨ key ∈ before) (symbols : List Symbol) :
    dedupAfter seen symbols = (dedupAfter before symbols).filter fun symbol =>
      decide (symbol.key ∉ added) := by
  induction symbols generalizing seen before with
  | nil => rfl
  | cons symbol rest ih =>
    by_cases known : symbol.key ∈ before
    · have knownSince : symbol.key ∈ seen := (split symbol.key).mpr (.inr known)
      rw [dedupAfter, dedupAfter, if_pos (by simpa using knownSince), if_pos (by simpa using known)]
      exact ih split
    · by_cases new : symbol.key ∈ added
      · have knownSince : symbol.key ∈ seen := (split symbol.key).mpr (.inl new)
        rw [dedupAfter, dedupAfter, if_pos (by simpa using knownSince),
          if_neg (by simpa using known), List.filter_cons_of_neg (by simpa using new)]
        exact ih fun key => by grind
      · have unknown : symbol.key ∉ seen :=
          fun member => ((split symbol.key).mp member).elim new known
        rw [dedupAfter, dedupAfter, if_neg (by simpa using unknown), if_neg (by simpa using known),
          List.filter_cons_of_pos (by simpa using new)]
        exact congrArg (symbol :: ·) (ih fun key => by grind)

private theorem dedupAfter_eq_filter_dedup (seen : List Symbol.Key) (symbols : List Symbol) :
    dedupAfter seen symbols = (dedup symbols).filter fun symbol => decide (symbol.key ∉ seen) :=
  dedupAfter_eq_filter (fun key => by simp) symbols

private theorem mem_keys_dedup {symbols : List Symbol} {key : Symbol.Key} :
    key ∈ (dedup symbols).map Symbol.key ↔ key ∈ symbols.map Symbol.key := by
  constructor
  · exact fun kept => ((dedup_sublist symbols).map Symbol.key).mem kept
  · intro declared
    obtain ⟨symbol, member, rfl⟩ := List.mem_map.mp declared
    have unordered : symbols.Pairwise fun _ _ => True := List.pairwise_of_forall fun _ _ => trivial
    obtain ⟨kept, keptMember, same, -⟩ :=
      exists_mem_dedupAfter (fun _ => trivial) unordered member List.not_mem_nil
    exact List.mem_map.mpr ⟨kept, keptMember, same⟩

private theorem dedup_append_eq_filter (symbols more : List Symbol) :
    dedup (symbols ++ more) =
      dedup symbols ++ (dedup more).filter fun symbol =>
        decide (symbol.key ∉ symbols.map Symbol.key) := by
  rw [dedup_append, dedupAfter_eq_filter_dedup]
  simp only [List.mem_reverse, mem_keys_dedup]

/-- One more symbol is kept if the list before it does not declare it. -/
theorem dedup_concat (symbols : List Symbol) (symbol : Symbol) :
    dedup (symbols ++ [symbol]) = dedup symbols ++ if symbol.key ∈ symbols.map Symbol.key then []
      else [symbol] := by
  have alone : dedup [symbol] = [symbol] := rfl
  rw [dedup_append_eq_filter, alone]
  split
  · next declared => rw [List.filter_cons_of_neg (by simpa using declared), List.filter_nil]
  · next undeclared => rw [List.filter_cons_of_pos (by simpa using undeclared), List.filter_nil]

/-!
## First positions
-/

private theorem isFirstAt_append_of_lt {symbols : List Symbol} {position : Nat}
    (inside : position < symbols.length) (more : List Symbol) :
    IsFirstAt (symbols ++ more) position ↔ IsFirstAt symbols position := by
  rw [IsFirstAt, IsFirstAt]
  refine forall₂_congr fun earlier before => ?_
  rw [List.getElem?_append_left inside, List.getElem?_append_left (Nat.lt_trans before inside)]

private theorem isFirstAt_concat_length {symbols : List Symbol} {symbol : Symbol} :
    IsFirstAt (symbols ++ [symbol]) symbols.length ↔ symbol.key ∉ symbols.map Symbol.key := by
  rw [IsFirstAt, List.getElem?_concat_length, List.mem_iff_getElem?]
  constructor
  · rintro first ⟨earlier, found⟩
    rw [List.getElem?_map] at found
    have inside : earlier < symbols.length := by
      obtain ⟨_, found, -⟩ := Option.map_eq_some_iff.mp found
      exact (List.getElem?_eq_some_iff.mp found).1
    exact first earlier inside (by rw [List.getElem?_append_left inside, found, Option.map_some])
  · intro undeclared earlier inside found
    rw [List.getElem?_append_left inside, ← List.getElem?_map] at found
    exact undeclared ⟨earlier, found⟩

private theorem firstOccurrences_concat (symbols : List Symbol) (symbol : Symbol) :
    firstOccurrences (symbols ++ [symbol]) =
      firstOccurrences symbols ++ if symbol.key ∈ symbols.map Symbol.key then [] else [symbol] := by
  have within :
      (symbols.zipIdx.filter fun entry => decide (IsFirstAt (symbols ++ [symbol]) entry.2)) =
      symbols.zipIdx.filter fun entry => decide (IsFirstAt symbols entry.2) :=
    List.filter_congr fun entry member =>
      decide_eq_decide.mpr (isFirstAt_append_of_lt (List.snd_lt_of_mem_zipIdx member) [symbol])
  rw [firstOccurrences, List.zipIdx_append, List.filter_append, within, List.map_append,
    firstOccurrences, List.zipIdx_singleton, Nat.zero_add]
  split
  · next declared =>
    rw [List.filter_cons_of_neg (by simpa [isFirstAt_concat_length] using declared),
      List.filter_nil, List.map_nil]
  · next undeclared =>
    rw [List.filter_cons_of_pos (by simpa [isFirstAt_concat_length] using undeclared),
      List.filter_nil, List.map_singleton]

private theorem dedup_eq_firstOccurrences (symbols : List Symbol) :
    dedup symbols = firstOccurrences symbols := by
  induction symbols using List.reverseRecOn with
  | nil => rfl
  | append_singleton symbols symbol ih => rw [dedup_concat, firstOccurrences_concat, ih]

/-- Of a list exactly the first symbol of each declaration is kept, unchanged and in order. What is
kept of two lists after one another is what is kept of the first, then what is kept of the second
and not declared in the first. -/
theorem dedup_keeps_first_occurrences (symbols : List Symbol) :
    dedup symbols = firstOccurrences symbols ∧ (dedup symbols).Sublist symbols ∧
    ∀ more : List Symbol, dedup (symbols ++ more) =
      dedup symbols ++ (dedup more).filter fun symbol =>
        decide (symbol.key ∉ symbols.map Symbol.key) :=
  ⟨dedup_eq_firstOccurrences symbols, dedup_sublist symbols, dedup_append_eq_filter symbols⟩

/-!
## Choosing by what identifies a declaration
-/

section Choosing

variable {keep : Symbol → Bool}
    (byKey : ∀ first second : Symbol, first.key = second.key → keep first = keep second)

include byKey

private theorem mem_keys_filter {symbols : List Symbol} {symbol : Symbol}
    (kept : keep symbol = true) :
    symbol.key ∈ (symbols.filter keep).map Symbol.key ↔ symbol.key ∈ symbols.map Symbol.key := by
  constructor
  · exact fun declared => (List.filter_sublist.map Symbol.key).mem declared
  · intro declared
    obtain ⟨earlier, member, same⟩ := List.mem_map.mp declared
    exact List.mem_map.mpr
      ⟨earlier, List.mem_filter.mpr ⟨member, (byKey earlier symbol same).trans kept⟩, same⟩

theorem filter_dedup (symbols : List Symbol) :
    (dedup symbols).filter keep = dedup (symbols.filter keep) := by
  induction symbols using List.reverseRecOn with
  | nil => rfl
  | append_singleton symbols symbol ih =>
    rw [dedup_concat, List.filter_append, List.filter_append, ih]
    cases kept : keep symbol with
    | false =>
      rw [List.filter_cons_of_neg (by simp [kept]), List.filter_nil, List.append_nil]
      split <;> simp [kept]
    | true =>
      -- A symbol that is chosen has been declared by a chosen one, if it has been declared.
      rw [List.filter_cons_of_pos kept, List.filter_nil, dedup_concat]
      simp only [mem_keys_filter byKey kept]
      split <;> simp [kept]

end Choosing

end Symtab
