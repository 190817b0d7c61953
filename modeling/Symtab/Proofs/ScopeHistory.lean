import Mathlib.Data.List.Induction
import Mathlib.Data.List.Infix
import Mathlib.Order.Bounds.Defs
import Symtab.Scope

/-!
# What is left of a history of bodies

A stack of open bodies is what its history leaves: a pop cancels the latest push before it that no
earlier pop has cancelled, and the open bodies are the pushes that stay uncancelled, in their order.
A pop without such a push does nothing and is not paid back later, so the depth is the largest
excess of pushes over pops at the end of the history, not the excess over all of it.
-/

set_option autoImplicit false

namespace Symtab.ScopeStack

/-- A change of the open bodies. -/
inductive Operation where
  | push (scope : Scope)
  | pop
  deriving DecidableEq, Repr

/-- The scope that an operation pushes. -/
def Operation.pushed? : Operation → Option Scope
  | .push scope => some scope
  | .pop => none

/-- What an operation adds to the excess of pushes over pops. -/
def Operation.weight : Operation → Int
  | .push _ => 1
  | .pop => -1

/-- The stack after an operation. -/
def apply (stack : ScopeStack) : Operation → ScopeStack
  | .push scope => stack.push scope
  | .pop => stack.pop

/-- The stack that a history makes of the one with no body open. -/
def run (history : List Operation) : ScopeStack :=
  history.foldl apply empty

private theorem run_concat (history : List Operation) (operation : Operation) :
    run (history ++ [operation]) = (run history).apply operation := by
  simp [run]

/-!
## Cancelled pushes
-/

section Places

variable (history : List Operation)

/-- The scope pushed at a place of the history. -/
def pushedAt? (place : Nat) : Option Scope :=
  history[place]?.bind Operation.pushed?

/-- The place of the push that is cancelled by a pop at the given place: the latest one before it
that no earlier pop cancels. -/
def cancelledBy? (pop : Nat) : Option Nat :=
  if history[pop]? = some .pop then
    (List.range pop).reverse.find? fun place =>
      (pushedAt? history place).isSome &&
        (List.range pop).attach.all fun earlier => cancelledBy? earlier.1 != some place
  else
    none
termination_by pop
decreasing_by exact List.mem_range.mp earlier.2

/-- Whether there is a push at the place that no pop before the given time cancels. -/
def standsAt (time place : Nat) : Bool :=
  (pushedAt? history place).isSome && (List.range time).all fun pop =>
    cancelledBy? history pop != some place

/-- The places of the pushes that no pop cancels, in ascending order. -/
def uncancelledPlaces : List Nat :=
  (List.range history.length).filter (standsAt history history.length)

/-- The scopes of the pushes that no pop cancels, in the order of the pushes. -/
def uncancelled : List Scope :=
  (uncancelledPlaces history).filterMap (pushedAt? history)

end Places

section Cancelled

variable {history : List Operation}

private theorem cancelledBy?_eq (pop : Nat) :
    cancelledBy? history pop =
      if history[pop]? = some .pop then ((List.range pop).filter (standsAt history pop)).getLast?
      else none := by
  rw [cancelledBy?]
  split
  · rw [← List.head?_filter, List.filter_reverse, List.head?_reverse]
    simp only [List.all_subtype, List.unattach_attach]
    rfl
  · rfl

private theorem pushedAt?_append {place : Nat} (before : place < history.length)
    (later : List Operation) :
    pushedAt? (history ++ later) place = pushedAt? history place := by
  rw [pushedAt?, List.getElem?_append_left before, pushedAt?]

private theorem standsAt_congr {other : List Operation} {time place : Nat}
    (pushed : pushedAt? history place = pushedAt? other place)
    (cancelled : ∀ pop < time, cancelledBy? history pop = cancelledBy? other pop) :
    standsAt history time place = standsAt other time place := by
  rw [standsAt, standsAt, pushed]
  congr 1
  rw [Bool.eq_iff_iff, List.all_eq_true, List.all_eq_true]
  exact forall₂_congr fun pop member => by rw [cancelled pop (List.mem_range.mp member)]

/-- What a pop cancels depends on the history up to it only. -/
theorem cancelledBy?_append {pop : Nat} (before : pop < history.length) (later : List Operation) :
    cancelledBy? (history ++ later) pop = cancelledBy? history pop := by
  induction pop using Nat.strongRecOn with
  | ind pop ih =>
    rw [cancelledBy?_eq, cancelledBy?_eq, List.getElem?_append_left before]
    have same :
        (List.range pop).filter (standsAt (history ++ later) pop) =
          (List.range pop).filter (standsAt history pop) := by
      refine List.filter_congr fun place member => ?_
      have earlier : place < history.length := Nat.lt_trans (List.mem_range.mp member) before
      exact standsAt_congr (pushedAt?_append earlier later) fun other below =>
        ih other below (Nat.lt_trans below before)
    rw [same]

private theorem standsAt_append {place : Nat} (before : place < history.length)
    (later : List Operation) :
    standsAt (history ++ later) history.length place = standsAt history history.length place :=
  standsAt_congr (pushedAt?_append before later) fun _ below => cancelledBy?_append below later

private theorem standsAt_succ (time place : Nat) :
    standsAt history (time + 1) place =
      (standsAt history time place && cancelledBy? history time != some place) := by
  rw [standsAt, standsAt, List.range_succ, List.all_append, List.all_cons, List.all_nil,
    Bool.and_true, Bool.and_assoc]

private theorem cancelledBy?_lt {pop place : Nat}
    (cancels : cancelledBy? history pop = some place) : place < pop := by
  rw [cancelledBy?_eq] at cancels
  split at cancels
  · exact List.mem_range.mp (List.mem_filter.mp (List.mem_of_getLast? cancels) |>.1)
  · cases cancels

private theorem cancelledBy?_pop :
    cancelledBy? (history ++ [.pop]) history.length = (uncancelledPlaces history).getLast? := by
  rw [cancelledBy?_eq, List.getElem?_concat_length, if_pos rfl, uncancelledPlaces]
  congr 1
  exact List.filter_congr fun place member => standsAt_append (List.mem_range.mp member) _

private theorem cancelledBy?_push (scope : Scope) :
    cancelledBy? (history ++ [.push scope]) history.length = none := by
  rw [cancelledBy?_eq, List.getElem?_concat_length, if_neg (by simp)]

/-- A push stands at the end of a history that it is the last operation of, and a pop is no push. -/
theorem standsAt_last (operation : Operation) :
    standsAt (history ++ [operation]) (history.length + 1) history.length =
      operation.pushed?.isSome := by
  have notYet : ((List.range (history.length + 1)).all
      fun pop => cancelledBy? (history ++ [operation]) pop != some history.length) = true := by
    rw [List.all_eq_true]
    intro pop member
    rw [bne_iff_ne]
    intro cancels
    have earlier := cancelledBy?_lt cancels
    have inside := List.mem_range.mp member
    omega
  rw [standsAt, notYet, Bool.and_true, pushedAt?, List.getElem?_concat_length, Option.bind_some]

private theorem uncancelledPlaces_concat (operation : Operation) :
    uncancelledPlaces (history ++ [operation]) =
      (uncancelledPlaces history).filter
        (cancelledBy? (history ++ [operation]) history.length != some ·) ++
        if operation.pushed?.isSome then [history.length] else [] := by
  have earlier :
      (List.range history.length).filter (standsAt (history ++ [operation]) (history.length + 1)) =
      (uncancelledPlaces history).filter
        (cancelledBy? (history ++ [operation]) history.length != some ·) := by
    rw [uncancelledPlaces, List.filter_filter]
    refine List.filter_congr fun place member => ?_
    rw [standsAt_succ, standsAt_append (List.mem_range.mp member), Bool.and_comm]
  rw [uncancelledPlaces, List.length_append, List.length_singleton, List.range_succ,
    List.filter_append, earlier, List.filter_cons, standsAt_last, List.filter_nil]

private theorem nodup_uncancelledPlaces (history : List Operation) :
    (uncancelledPlaces history).Nodup :=
  List.nodup_range.filter _

private theorem uncancelledPlaces_push (scope : Scope) :
    uncancelledPlaces (history ++ [.push scope]) =
      uncancelledPlaces history ++ [history.length] := by
  rw [uncancelledPlaces_concat, cancelledBy?_push, List.filter_eq_self.mpr (by simp)]
  rfl

private theorem uncancelledPlaces_pop :
    uncancelledPlaces (history ++ [.pop]) = (uncancelledPlaces history).dropLast := by
  rw [uncancelledPlaces_concat, cancelledBy?_pop]
  have distinct := nodup_uncancelledPlaces history
  cases List.eq_nil_or_concat (uncancelledPlaces history) with
  | inl none => simp [none, Operation.pushed?]
  | inr split =>
    obtain ⟨front, last, split⟩ := split
    rw [List.concat_eq_append] at split
    rw [split] at distinct ⊢
    have others : ∀ place ∈ front, (some last != some place) = true := by
      intro place member
      rw [bne_iff_ne]
      intro same
      exact (List.nodup_append.mp distinct).2.2 place member last (List.mem_singleton_self last)
        (Option.some.inj same).symm
    rw [List.getLast?_concat, List.dropLast_concat, List.filter_append,
      List.filter_eq_self.mpr others]
    simp [Operation.pushed?]

private theorem isSome_pushedAt? {place : Nat} (member : place ∈ uncancelledPlaces history) :
    (pushedAt? history place).isSome := by
  have stands := (List.mem_filter.mp member).2
  rw [standsAt, Bool.and_eq_true] at stands
  exact stands.1

private theorem lt_of_mem_uncancelledPlaces {place : Nat}
    (member : place ∈ uncancelledPlaces history) : place < history.length :=
  List.mem_range.mp (List.mem_filter.mp member).1

private theorem filterMap_pushedAt?_append {places : List Nat}
    (before : ∀ place ∈ places, place < history.length) (later : List Operation) :
    places.filterMap (pushedAt? (history ++ later)) = places.filterMap (pushedAt? history) :=
  List.filterMap_congr fun place member => pushedAt?_append (before place member) later

private theorem uncancelled_push (scope : Scope) :
    uncancelled (history ++ [.push scope]) = uncancelled history ++ [scope] := by
  have pushed : pushedAt? (history ++ [.push scope]) history.length = some scope := by
    rw [pushedAt?, List.getElem?_concat_length]
    rfl
  rw [uncancelled, uncancelledPlaces_push, List.filterMap_append,
    filterMap_pushedAt?_append fun place member => lt_of_mem_uncancelledPlaces member,
      List.filterMap_cons_some pushed]
  rfl

private theorem uncancelled_pop :
    uncancelled (history ++ [.pop]) = (uncancelled history).dropLast := by
  rw [uncancelled, uncancelledPlaces_pop,
    filterMap_pushedAt?_append fun place member =>
      lt_of_mem_uncancelledPlaces (List.mem_of_mem_dropLast member), uncancelled]
  cases List.eq_nil_or_concat (uncancelledPlaces history) with
  | inl none => rw [none]; rfl
  | inr split =>
    obtain ⟨front, last, split⟩ := split
    rw [List.concat_eq_append] at split
    have member : last ∈ uncancelledPlaces history := by rw [split]; exact List.mem_concat_self
    obtain ⟨scope, pushed⟩ := Option.isSome_iff_exists.mp (isSome_pushedAt? member)
    rw [split, List.dropLast_concat, List.filterMap_append, List.filterMap_cons_some pushed,
      List.filterMap_nil, List.dropLast_concat]

end Cancelled

/-!
## The stack after a history
-/

private theorem opened_run (history : List Operation) :
    (run history).opened.reverse = uncancelled history := by
  induction history using List.reverseRecOn with
  | nil => rfl
  | append_singleton history operation ih =>
    rw [run_concat]
    cases operation with
    | push scope => rw [uncancelled_push, ← ih]; exact List.reverse_cons
    | pop => rw [uncancelled_pop, ← ih, List.dropLast_reverse]; rfl

private theorem entries_run (history : List Operation) :
    (run history).entries = Scope.root :: uncancelled history := by
  rw [entries, opened_run]

private theorem names_getLast? (stack : ScopeStack) :
    stack.names.getLast? = some stack.current := by
  cases stack with
  | mk opened =>
    cases opened with
    | nil => rfl
    | cons scope rest =>
      rw [names, entries, List.reverse_cons, ← List.cons_append, List.map_append]
      exact List.getLast?_concat

private theorem nearest?_run (history : List Operation) (kind : ScopeKind) :
    (run history).nearest? kind =
      (((uncancelled history).filter (·.kind = kind)).getLast?.map (·.name)).or
        (if kind = .root then some globalScope else none) := by
  rw [nearest?, ← opened_run, List.filter_reverse, List.getLast?_reverse, List.head?_filter,
    List.find?_append, Option.map_or]
  congr 1
  cases kind with
  | root => rfl
  | classType => rfl
  | function => rfl
  | module => rfl
  | implementation => rfl

/-- The number of pushes minus the number of pops. -/
def balance (history : List Operation) : Int :=
  history.countP (·.pushed?.isSome) - history.countP (·.pushed?.isNone)

private theorem balance_concat (history : List Operation) (operation : Operation) :
    balance (history ++ [operation]) = balance history + operation.weight := by
  rw [balance, balance, List.countP_append, List.countP_append]
  cases operation with
  | push scope =>
    have single :
        [Operation.push scope].countP (·.pushed?.isSome) = 1 ∧
        [Operation.push scope].countP (·.pushed?.isNone) = 0 :=
      ⟨rfl, rfl⟩
    rw [single.1, single.2, Operation.weight]
    omega
  | pop =>
    have single :
        [Operation.pop].countP (·.pushed?.isSome) = 0 ∧
        [Operation.pop].countP (·.pushed?.isNone) = 1 := ⟨rfl, rfl⟩
    rw [single.1, single.2, Operation.weight]
    omega

/-- The balance of the end of a history, for every place where that end can start. -/
def endBalances (history : List Operation) : Set Int :=
  {total | ∃ recent, recent <:+ history ∧ balance recent = total}

private theorem mem_endBalances_concat {history : List Operation} {operation : Operation}
    {total : Int} :
    total ∈ endBalances (history ++ [operation]) ↔
      total = 0 ∨ ∃ earlier ∈ endBalances history, earlier + operation.weight = total := by
  constructor
  · intro ⟨recent, ends, sum⟩
    cases List.suffix_concat_iff.mp ends with
    | inl none => exact .inl (by rw [← sum, none]; rfl)
    | inr split =>
      obtain ⟨front, rfl, inside⟩ := split
      exact .inr ⟨balance front, ⟨front, inside, rfl⟩, by rw [← sum, balance_concat]⟩
  · intro shape
    cases shape with
    | inl zero => exact ⟨[], List.nil_suffix, by rw [zero]; rfl⟩
    | inr split =>
      obtain ⟨earlier, ⟨recent, ends, rfl⟩, sum⟩ := split
      exact ⟨recent ++ [operation], List.suffix_concat_iff.mpr (.inr ⟨recent, rfl, ends⟩),
        by rw [balance_concat, sum]⟩

/-- An operation moves the largest balance by its weight, but not below zero, which is the balance
of the empty end. -/
theorem isGreatest_endBalances_concat {history : List Operation} {height : Int}
    (greatest : IsGreatest (endBalances history) height) (operation : Operation) :
    IsGreatest (endBalances (history ++ [operation]))
      ((height + operation.weight).toNat : Int) := by
  obtain ⟨attained, bound⟩ := greatest
  refine ⟨mem_endBalances_concat.mpr ?_, fun total member => ?_⟩
  · by_cases below : height + operation.weight < 0
    · exact .inl (by omega)
    · exact .inr ⟨height, attained, by omega⟩
  · cases mem_endBalances_concat.mp member with
    | inl zero => omega
    | inr split =>
      obtain ⟨earlier, inside, rfl⟩ := split
      have smaller := bound inside
      omega

/-- The number of open bodies moves in the same way. -/
theorem length_opened_apply (stack : ScopeStack) (operation : Operation) :
    (stack.apply operation).opened.length =
      ((stack.opened.length : Int) + operation.weight).toNat := by
  cases operation with
  | push scope =>
    rw [apply, push, List.length_cons, Operation.weight]
    omega
  | pop =>
    rw [apply, pop, List.length_tail, Operation.weight]
    omega

private theorem isGreatest_endBalances (history : List Operation) :
    IsGreatest (endBalances history) ((run history).opened.length : Int) := by
  induction history using List.reverseRecOn with
  | nil =>
    refine ⟨⟨[], List.suffix_rfl, rfl⟩, fun total member => ?_⟩
    obtain ⟨recent, ends, rfl⟩ := member
    rw [List.suffix_nil.mp ends]
    exact Int.le_refl 0
  | append_singleton history operation ih =>
    rw [run_concat, length_opened_apply]
    exact isGreatest_endBalances_concat ih operation

/-- The entries after a history are the floor and the pushes that no pop cancels, in order. The
depth is one more than the largest balance of an end of the history, a pop leads back to the name of
the entry that is then on top, and the nearest body of a kind is the last uncancelled push of that
kind, or for want of one the floor if the kind is the floor's. -/
theorem run_matches_brackets (history : List Operation) :
    (run history).entries = Scope.root :: uncancelled history ∧
    IsGreatest (endBalances history) ((run history).depth - 1 : Int) ∧
    (run (history ++ [.pop]) = (run history).pop ∧
      (run (history ++ [.pop])).names.getLast? = some (run history).pop.current) ∧
    ∀ kind, (run history).nearest? kind =
      (((uncancelled history).filter (·.kind = kind)).getLast?.map (·.name)).or
        (if kind = .root then some globalScope else none) := by
  refine ⟨entries_run history, ?_, ⟨run_concat history .pop, ?_⟩, nearest?_run history⟩
  · have counted : ((run history).depth - 1 : Int) = (run history).opened.length := by
      rw [depth]
      omega
    rw [counted]
    exact isGreatest_endBalances history
  · rw [run_concat history .pop]
    exact names_getLast? (run history).pop

-- The pops at the start and in the middle that find nothing to cancel are not paid back by the
-- pushes after them.
example :
    uncancelled [.pop, .push ⟨"a", .classType⟩, .push ⟨"b", .function⟩, .pop, .pop, .pop,
      .push ⟨"c", .function⟩] =
      [⟨"c", .function⟩] := by
  decide +kernel

end Symtab.ScopeStack
