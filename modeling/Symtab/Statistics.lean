import Symtab.Symbol

/-!
# Scanned files and their numbers

The symbols found in each scanned file, the totals over all files, and how many symbols there are of
each kind, in the order in which the kinds first occur.
-/

set_option autoImplicit false

namespace Symtab

/-- The symbols found in a file. -/
structure ScannedFile where
  path : String
  language : Language
  symbols : List Symbol
  deriving DecidableEq, Repr

/-- The path of a file with a slash for every backslash. -/
def ScannedFile.shownPath (file : ScannedFile) : String :=
  file.path.map fun c => if c = '\\' then '/' else c

/-- The symbols of all files, in order. -/
def allSymbols (files : List ScannedFile) : List Symbol :=
  files.flatMap (·.symbols)

/-- The number of symbols of all files, added up file by file. -/
def totalSymbols (files : List ScannedFile) : Nat :=
  files.foldl (fun total file => total + file.symbols.length) 0

theorem totalSymbols_eq_length (files : List ScannedFile) :
    totalSymbols files = (allSymbols files).length := by
  have added (total : Nat) :
      files.foldl (fun total file => total + file.symbols.length) total =
        total + (allSymbols files).length := by
    induction files generalizing total with
    | nil => rfl
    | cons file files ih =>
      have split : allSymbols (file :: files) = file.symbols ++ allSymbols files := rfl
      rw [List.foldl_cons, ih, split, List.length_append, Nat.add_assoc]
  rw [totalSymbols, added, Nat.zero_add]

/-- The number of symbols of a kind. -/
structure KindCount where
  kind : Kind
  count : Nat
  deriving DecidableEq, Repr

/-- The counts with one more symbol of a kind. -/
def KindCount.add (kind : Kind) : List KindCount → List KindCount
  | [] => [⟨kind, 1⟩]
  | entry :: rest =>
    if entry.kind = kind then ⟨kind, entry.count + 1⟩ :: rest else entry :: add kind rest

/-- The number of symbols of each kind that occurs, in order of first occurrence. -/
def kindCounts (symbols : List Symbol) : List KindCount :=
  symbols.foldl (fun counts symbol => KindCount.add symbol.kind counts) []

end Symtab
