import Mathlib.Data.List.Chain
import Symtab.Query

/-!
# Stable ordering

Comparing symbols by a column, in either direction, is a total preorder, and ordering them by it is
stable. A stable ordering is determined by its list: it is the one rearrangement in which neighbours
are in order and elements that compare equal stand as they stood. The two directions of an ordering
are compared by that.
-/

set_option autoImplicit false

namespace Symtab

/-!
## Stable orderings of a list
-/

section Stable

variable {α : Type} (comparison : α → α → Ordering)

/-- The elements of a list that compare equal to an element. -/
def ties (element : α) (list : List α) : List α :=
  list.filter fun other => comparison element other == .eq

/-- `result` is `list` put in order, with elements that compare equal left in the order in which
they stood. -/
structure IsStableOrdering (list result : List α) : Prop where
  perm : result.Perm list
  ordered : result.IsChain fun first second => comparison first second ≠ .gt
  stable : ∀ element, ties comparison element result = ties comparison element list

variable {comparison}

private theorem mem_ties {element other : α} {list : List α} :
    other ∈ ties comparison element list ↔ other ∈ list ∧ comparison element other = .eq := by
  rw [ties, List.mem_filter, beq_iff_eq]

private theorem ties_sublist (element : α) (list : List α) :
    (ties comparison element list).Sublist list :=
  List.filter_sublist

private theorem ties_cons_of_eq {element head : α} (tied : comparison element head = .eq)
    (tail : List α) :
    ties comparison element (head :: tail) = head :: ties comparison element tail :=
  List.filter_cons_of_pos (beq_iff_eq.mpr tied)

private theorem ties_append (element : α) (first second : List α) :
    ties comparison element (first ++ second) =
      ties comparison element first ++ ties comparison element second :=
  List.filter_append first second

private theorem ties_reverse (element : α) (list : List α) :
    ties comparison element list.reverse = (ties comparison element list).reverse :=
  List.filter_reverse

private theorem ties_filter (keep : α → Bool) (element : α) (list : List α) :
    ties comparison element (list.filter keep) = (ties comparison element list).filter keep :=
  List.filter_comm _ keep list

variable [Std.TransCmp comparison]

private theorem mem_ties_self {element : α} {list : List α} (member : element ∈ list) :
    element ∈ ties comparison element list :=
  mem_ties.mpr ⟨member, Std.ReflCmp.compare_self⟩

private theorem mem_of_ties_eq {first second : List α}
    (same : ∀ element, ties comparison element first = ties comparison element second) {element : α}
    (member : element ∈ first) : element ∈ second :=
  (ties_sublist element second).mem (same element ▸ mem_ties_self member)

theorem ne_gt_trans {first second third : α} (before : comparison first second ≠ .gt)
    (after : comparison second third ≠ .gt) :
    comparison first third ≠ .gt :=
  Ordering.ne_gt_iff_isLE.mpr
    (Std.TransCmp.isLE_trans (Ordering.ne_gt_iff_isLE.mp before) (Ordering.ne_gt_iff_isLE.mp after))

private theorem pairwise_of_isChain {list : List α}
    (ordered : list.IsChain fun first second => comparison first second ≠ .gt) :
    list.Pairwise fun first second => comparison first second ≠ .gt :=
  have : Trans (fun first second => comparison first second ≠ .gt)
      (fun first second => comparison first second ≠ .gt)
      (fun first second => comparison first second ≠ .gt) := ⟨ne_gt_trans⟩
  ordered.pairwise

private theorem head_ne_gt {head : α} {tail : List α}
    (ordered : (head :: tail).Pairwise fun a b => comparison a b ≠ .gt) {element : α}
    (member : element ∈ head :: tail) : comparison head element ≠ .gt := by
  rcases List.mem_cons.mp member with rfl | later
  · have same : comparison element element = .eq := Std.ReflCmp.compare_self
    simp [same]
  · exact List.rel_of_pairwise_cons ordered later

/-- A list in order is determined by the elements that compare equal to each element, in the order
in which they stand. -/
theorem eq_of_ties_eq {first second : List α}
    (firstOrdered : first.Pairwise fun a b => comparison a b ≠ .gt)
    (secondOrdered : second.Pairwise fun a b => comparison a b ≠ .gt)
    (same : ∀ element, ties comparison element first = ties comparison element second) :
    first = second := by
  induction first generalizing second with
  | nil =>
    exact (List.eq_nil_iff_forall_not_mem.mpr fun _ member =>
      List.not_mem_nil (mem_of_ties_eq (fun element => (same element).symm) member)).symm
  | cons head tail ih =>
    cases second with
    | nil => exact absurd (mem_of_ties_eq same List.mem_cons_self) List.not_mem_nil
    | cons other others =>
      -- Each head comes before the other, so the two tie, and the first of their ties is both.
      have before : comparison head other ≠ .gt :=
        head_ne_gt firstOrdered
          (mem_of_ties_eq (fun element => (same element).symm) List.mem_cons_self)
      have after : comparison other head ≠ .gt :=
        head_ne_gt secondOrdered (mem_of_ties_eq same List.mem_cons_self)
      have tied : comparison head other = .eq :=
        Std.OrientedCmp.isLE_antisymm (Ordering.ne_gt_iff_isLE.mp before)
          (Ordering.ne_gt_iff_isLE.mp after)
      have firsts : head :: ties comparison head tail = other :: ties comparison head others := by
        rw [← ties_cons_of_eq Std.ReflCmp.compare_self, ← ties_cons_of_eq tied]
        exact same head
      obtain ⟨rfl, -⟩ := List.cons.inj firsts
      refine congrArg (head :: ·) (ih firstOrdered.of_cons secondOrdered.of_cons fun element => ?_)
      have equal := same element
      rw [ties, ties, List.filter_cons, List.filter_cons] at equal
      split at equal
      · exact (List.cons.inj equal).2
      · exact equal

/-- Only one list is a stable ordering of a list. -/
theorem IsStableOrdering.unique {list first second : List α}
    (one : IsStableOrdering comparison list first)
    (other : IsStableOrdering comparison list second) : first = second :=
  eq_of_ties_eq (pairwise_of_isChain one.ordered) (pairwise_of_isChain other.ordered) fun element =>
    (one.stable element).trans (other.stable element).symm

private theorem bne_gt_trans (first second third : α)
    (before : (comparison first second != .gt) = true)
    (after : (comparison second third != .gt) = true) : (comparison first third != .gt) = true :=
  bne_iff_ne.mpr (ne_gt_trans (bne_iff_ne.mp before) (bne_iff_ne.mp after))

private theorem bne_gt_total (first second : α) :
    ((comparison first second != .gt) || (comparison second first != .gt)) = true := by
  have reversed : comparison second first = (comparison first second).swap :=
    Std.OrientedCmp.eq_swap
  rw [reversed]
  cases comparison first second <;> rfl

theorem pairwise_mergeSort (list : List α) :
    (list.mergeSort fun first second => comparison first second != .gt).Pairwise fun first second =>
      comparison first second ≠ .gt :=
  (List.pairwise_mergeSort bne_gt_trans bne_gt_total list).imp bne_iff_ne.mp

private theorem pairwise_ties (element : α) (list : List α) :
    (ties comparison element list).Pairwise fun first second =>
      (comparison first second != .gt) = true := by
  refine List.pairwise_of_forall_mem_list fun first firstMember second secondMember => ?_
  have tied : comparison first second = .eq :=
    Std.TransCmp.eq_trans (Std.OrientedCmp.eq_comm.mp (mem_ties.mp firstMember).2)
      (mem_ties.mp secondMember).2
  rw [tied]
  rfl

/-- Ties are in order as they stand, so that sorting leaves them a sublist, and it adds nothing to
them. -/
theorem ties_mergeSort (element : α) (list : List α) :
    ties comparison element (list.mergeSort fun first second => comparison first second != .gt) =
      ties comparison element list := by
  have kept :
      (ties comparison element list).Sublist
        (list.mergeSort fun first second => comparison first second != .gt) :=
    List.sublist_mergeSort bne_gt_trans bne_gt_total (pairwise_ties element list)
      (ties_sublist element list)
  have within : (ties comparison element list).Sublist
      (ties comparison element (list.mergeSort fun first second =>
        comparison first second != .gt)) := by
    have filtered := kept.filter fun other => comparison element other == .eq
    simpa only [ties, List.filter_filter, Bool.and_self] using filtered
  have length :=
    ((List.mergeSort_perm list fun first second => comparison first second != .gt).filter
    fun other => comparison element other == .eq).length_eq
  exact (within.eq_of_length length.symm).symm

private theorem isStableOrdering_mergeSort (list : List α) :
    IsStableOrdering comparison list
      (list.mergeSort fun first second => comparison first second != .gt) where
  perm := List.mergeSort_perm list _
  ordered := (pairwise_mergeSort list).isChain
  stable element := ties_mergeSort element list

end Stable

/-!
## Comparing by a column
-/

section Lawful

variable {α β : Type} (comparison : α → α → Ordering) [Std.TransCmp comparison]

private theorem transCmp_on (column : β → α) :
    Std.TransCmp fun first second => comparison (column first) (column second) where
  eq_swap := Std.OrientedCmp.eq_swap
  isLE_trans := Std.TransCmp.isLE_trans

theorem SortOrder.orient_eq_eq_iff (order : SortOrder) {outcome : Ordering} :
    order.orient outcome = .eq ↔ outcome = .eq := by
  cases order with
  | ascending => rfl
  | descending => exact Ordering.swap_eq_eq

theorem SortOrder.transCmp_orient (order : SortOrder) :
    Std.TransCmp fun first second => order.orient (comparison first second) := by
  cases order with
  | ascending => exact inferInstanceAs (Std.TransCmp comparison)
  | descending =>
    have opposite :
        (fun first second => (comparison first second).swap) = fun first second =>
          comparison second first :=
      funext₂ fun _ _ => Std.OrientedCmp.eq_swap.symm
    exact opposite ▸ Std.TransCmp.opposite

/-- Compares values that may be absent, with the absent ones last. -/
def absentLast : Option α → Option α → Ordering
  | some first, some second => comparison first second
  | some _, none => .lt
  | none, some _ => .gt
  | none, none => .eq

private theorem transCmp_absentLast : Std.TransCmp (absentLast comparison) where
  eq_swap {first second} := by
    cases first with
    | none => cases second <;> rfl
    | some present =>
      cases second with
      | none => rfl
      | some other =>
        rw [absentLast, absentLast]
        exact Std.OrientedCmp.eq_swap
  isLE_trans {first second third} before after := by
    cases third with
    | none => cases first <;> rfl
    | some last =>
      cases second with
      | none => cases after
      | some middle =>
        cases first with
        | none => cases before
        | some present =>
          rw [absentLast] at before after ⊢
          exact Std.TransCmp.isLE_trans before after

end Lawful

namespace Symbol

private theorem transCmp_column {α : Type} [Ord α] [Std.TransOrd α] (order : SortOrder)
    (column : Symbol → α) :
    Std.TransCmp fun first second => order.orient (compare (column first) (column second)) :=
  have := order.transCmp_orient (compare : α → α → Ordering)
  transCmp_on (fun one other : α => order.orient (compare one other)) column

private theorem compareBy_dataType (order : SortOrder) (first second : Symbol) :
    first.compareBy .dataType order second =
      absentLast (fun one other => order.orient (compare one other)) first.dataType
        second.dataType := by
  rw [compareBy]
  cases first.dataType <;> cases second.dataType <;> rfl

instance transCmp_compareBy (key : SortKey) (order : SortOrder) :
    Std.TransCmp (compareBy key order) := by
  cases key with
  | line => exact transCmp_column order Symbol.line
  | name => exact transCmp_column order Symbol.name
  | kind => exact transCmp_column order (Kind.id ∘ Symbol.kind)
  | scope => exact transCmp_column order Symbol.scope
  | dataType =>
    have oriented := order.transCmp_orient (compare : String → String → Ordering)
    have lawful := transCmp_absentLast fun one other : String => order.orient (compare one other)
    rw [show compareBy .dataType order = _ from funext₂ (compareBy_dataType order)]
    exact transCmp_on _ Symbol.dataType

end Symbol

/-!
## Ordering by a column
-/

section Column

variable {key : SortKey} {order : SortOrder} {symbols result : List Symbol}

private theorem isStableOrdering_sortSymbols (key : SortKey) (order : SortOrder)
    (symbols : List Symbol) :
    IsStableOrdering (Symbol.compareBy key order) symbols (sortSymbols key order symbols) :=
  isStableOrdering_mergeSort symbols

theorem isStableOrdering_iff :
    IsStableOrdering (Symbol.compareBy key order) symbols result ↔
      result = sortSymbols key order symbols :=
  ⟨fun ordering => ordering.unique (isStableOrdering_sortSymbols key order symbols),
    fun same => same ▸ isStableOrdering_sortSymbols key order symbols⟩

private theorem pairwise_sortSymbols (key : SortKey) (order : SortOrder) (symbols : List Symbol) :
    (sortSymbols key order symbols).Pairwise fun first second =>
      first.compareBy key order second ≠ .gt :=
  pairwise_mergeSort symbols

private theorem ties_sortSymbols (key : SortKey) (order : SortOrder) (symbol : Symbol)
    (symbols : List Symbol) :
    ties (Symbol.compareBy key order) symbol (sortSymbols key order symbols) =
      ties (Symbol.compareBy key order) symbol symbols :=
  ties_mergeSort symbol symbols

private theorem eq_sortSymbols
    (ordered : result.Pairwise fun first second => first.compareBy key order second ≠ .gt)
    (stable : ∀ symbol, ties (Symbol.compareBy key order) symbol result =
      ties (Symbol.compareBy key order) symbol symbols) :
    result = sortSymbols key order symbols :=
  eq_of_ties_eq ordered (pairwise_sortSymbols key order symbols) fun symbol =>
    (stable symbol).trans (ties_sortSymbols key order symbol symbols).symm

theorem sortSymbols_filter (key : SortKey) (order : SortOrder) (keep : Symbol → Bool)
    (symbols : List Symbol) :
    (sortSymbols key order symbols).filter keep = sortSymbols key order (symbols.filter keep) := by
  refine eq_sortSymbols ((pairwise_sortSymbols key order symbols).filter keep) fun symbol => ?_
  rw [ties_filter, ties_filter, ties_sortSymbols]

theorem sortSymbols_sortSymbols (key : SortKey) (order : SortOrder) (symbols : List Symbol) :
    sortSymbols key order (sortSymbols key order symbols) = sortSymbols key order symbols :=
  (eq_sortSymbols (pairwise_sortSymbols key order symbols) fun _ => rfl).symm

end Column

/-!
## The two directions
-/

section Directions

variable {key : SortKey} {order : SortOrder} {symbols : List Symbol}

/-- A symbol has something in a column: only the data type may be missing. -/
def Symbol.HasEntry (key : SortKey) (symbol : Symbol) : Prop :=
  key = .dataType → symbol.dataType.isSome = true

theorem Symbol.compareBy_descending {first second : Symbol} (firstEntry : first.HasEntry key)
    (secondEntry : second.HasEntry key) :
    first.compareBy key .descending second = second.compareBy key .ascending first := by
  cases key with
  | line | name | kind | scope => exact Std.OrientedCmp.eq_swap.symm
  | dataType =>
    obtain ⟨one, firstType⟩ := Option.isSome_iff_exists.mp (firstEntry rfl)
    obtain ⟨other, secondType⟩ := Option.isSome_iff_exists.mp (secondEntry rfl)
    rw [compareBy_dataType, compareBy_dataType, firstType, secondType]
    exact Std.OrientedCmp.eq_swap.symm

theorem Symbol.compareBy_eq_iff (key : SortKey) (order : SortOrder) (first second : Symbol) :
    first.compareBy key order second = .eq ↔ first.compareBy key .ascending second = .eq := by
  cases key with
  | line | name | kind | scope => exact order.orient_eq_eq_iff
  | dataType =>
    rw [compareBy_dataType, compareBy_dataType]
    cases first.dataType with
    | none => cases second.dataType <;> rfl
    | some one =>
      cases second.dataType with
      | none => rfl
      | some other => exact order.orient_eq_eq_iff

private theorem ties_descending (key : SortKey) (symbol : Symbol) (symbols : List Symbol) :
    ties (Symbol.compareBy key .descending) symbol symbols =
      ties (Symbol.compareBy key .ascending) symbol symbols :=
  List.filter_congr fun other _ =>
    Bool.eq_iff_iff.mpr (by simpa using Symbol.compareBy_eq_iff key .descending symbol other)

private theorem sortSymbols_descending (entries : ∀ symbol ∈ symbols, symbol.HasEntry key) :
    sortSymbols key .descending symbols = (sortSymbols key .ascending symbols.reverse).reverse := by
  refine (eq_sortSymbols (List.pairwise_reverse.mpr ?_) fun symbol => ?_).symm
  · have present : ∀ symbol ∈ sortSymbols key .ascending symbols.reverse, symbol.HasEntry key :=
      fun symbol member =>
      entries symbol (List.mem_reverse.mp
        ((isStableOrdering_sortSymbols _ _ _).perm.mem_iff.mp member))
    refine (pairwise_sortSymbols key .ascending symbols.reverse).imp_of_mem
      fun firstMember secondMember ordered => ?_
    rwa [Symbol.compareBy_descending (present _ secondMember) (present _ firstMember)]
  · rw [ties_reverse, ties_descending, ties_sortSymbols, ties_reverse, List.reverse_reverse,
      ties_descending]

theorem Symbol.compareBy_absent_ne_gt (order : SortOrder) (first : Symbol) {second : Symbol}
    (absent : second.dataType.isNone = true) : first.compareBy .dataType order second ≠ .gt := by
  rw [compareBy_dataType, Option.isNone_iff_eq_none.mp absent]
  cases first.dataType <;> exact nofun

theorem Symbol.dataType_eq_none_of_tied {first second : Symbol}
    (tied : first.compareBy .dataType order second = .eq) :
    second.dataType = none ↔ first.dataType = none := by
  rw [compareBy_dataType] at tied
  cases firstType : first.dataType with
  | none =>
    cases secondType : second.dataType with
    | none => rfl
    | some other => simp [firstType, secondType, absentLast] at tied
  | some one =>
    cases secondType : second.dataType with
    | none => simp [firstType, secondType, absentLast] at tied
    | some other => exact iff_of_false nofun nofun

/-- Symbols without a data type come last and as they stood, in either direction. -/
theorem sortSymbols_dataType (order : SortOrder) (symbols : List Symbol) :
    sortSymbols .dataType order symbols =
      sortSymbols .dataType order (symbols.filter (·.dataType.isSome)) ++
        symbols.filter (·.dataType.isNone) := by
  have last :
      ∀ first : Symbol, ∀ second ∈ symbols.filter (·.dataType.isNone),
        first.compareBy .dataType order second ≠ .gt :=
    fun first second member => first.compareBy_absent_ne_gt order (List.mem_filter.mp member).2
  have ordered :=
    List.pairwise_append.mpr ⟨pairwise_sortSymbols .dataType order
      (symbols.filter (·.dataType.isSome)),
    List.pairwise_of_forall_mem_list fun first _ => last first, fun first _ => last first⟩
  refine (eq_sortSymbols ordered fun symbol => ?_).symm
  -- All the ties of a symbol have a data type, or none of them has one.
  have alike : ∀ other ∈ ties (Symbol.compareBy .dataType order) symbol symbols,
      (other.dataType = none ↔ symbol.dataType = none) := fun other member =>
    Symbol.dataType_eq_none_of_tied (mem_ties.mp member).2
  rw [ties_append, ties_sortSymbols, ties_filter, ties_filter]
  by_cases absent : symbol.dataType = none
  · rw [List.filter_eq_nil_iff.mpr fun other member => by simp [alike other member, absent],
      List.filter_eq_self.mpr fun other member => by simp [alike other member, absent],
        List.nil_append]
  · rw [List.filter_eq_self.mpr fun other member =>
      by simp [Option.isSome_iff_ne_none, alike other member, absent],
      List.filter_eq_nil_iff.mpr fun other member => by simp [alike other member, absent],
        List.append_nil]

end Directions

/-- Ordering in descending order is ordering the reversed list in ascending order and reversing the
result, so that symbols which the column does not tell apart stay as they stood. By data type this
holds of the symbols that have one; the others follow as they stood. -/
theorem descending_eq_reverse_ascending (symbols : List Symbol) :
    (∀ key, key ≠ .dataType →
      sortSymbols key .descending symbols = (sortSymbols key .ascending symbols.reverse).reverse) ∧
    sortSymbols .dataType .descending symbols =
      (sortSymbols .dataType .ascending (symbols.filter (·.dataType.isSome)).reverse).reverse ++
        symbols.filter (·.dataType.isNone) := by
  refine ⟨fun key other => sortSymbols_descending fun symbol _ same => absurd same other, ?_⟩
  rw [sortSymbols_dataType, sortSymbols_descending fun symbol member _ =>
    (List.mem_filter.mp member).2]

theorem repeated_entries_descending :
    let symbol (name : String) (line : Nat) (dataType : Option String) : Symbol :=
      ⟨name, .variable, "global", line, dataType, .java, none⟩
    let symbols :=
      [symbol "a" 1 none, symbol "b" 2 (some "int"), symbol "a" 3 (some "long"), symbol "c" 4 none,
        symbol "b" 5 (some "int")]
    SortKey.name ≠ .dataType ∧
    sortSymbols .name .descending symbols =
      [symbol "c" 4 none, symbol "b" 2 (some "int"), symbol "b" 5 (some "int"), symbol "a" 1 none,
        symbol "a" 3 (some "long")] ∧
    sortSymbols .dataType .descending symbols =
      [symbol "a" 3 (some "long"), symbol "b" 2 (some "int"), symbol "b" 5 (some "int"),
        symbol "a" 1 none, symbol "c" 4 none] := by
  intro symbol symbols
  have directions := descending_eq_reverse_ascending symbols
  have byName : SortKey.name ≠ .dataType := by decide
  rw [directions.1 .name byName, directions.2]
  refine ⟨byName, ?_⟩
  simp +decide [symbols, symbol, sortSymbols, List.mergeSort, Symbol.compareBy, SortOrder.orient]

end Symtab
