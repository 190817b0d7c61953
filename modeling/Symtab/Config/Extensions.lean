import Symtab.Language.Basic

/-!
# Languages by extension

A table from file extensions to languages. Its entries are in ascending order of the extension, so
each extension occurs at most once.
-/

set_option autoImplicit false

namespace Symtab

/-- A table from file extensions to languages, in ascending order of the extension. -/
structure ExtensionTable where
  entries : List (String × Language)
  ascending : entries.Pairwise fun a b => a.1 < b.1

namespace ExtensionTable

/-- The table without entries. -/
def empty : ExtensionTable := ⟨[], .nil⟩

/-- Adds an entry to a list in ascending order; an entry of the same extension is replaced. -/
def insertEntry (extension : String) (language : Language) :
    List (String × Language) → List (String × Language)
  | [] => [(extension, language)]
  | entry :: rest =>
    if extension < entry.1 then (extension, language) :: entry :: rest
    else if extension = entry.1 then (extension, language) :: rest
    else entry :: insertEntry extension language rest

theorem mem_insertEntry {extension : String} {language : Language}
    {entries : List (String × Language)} {entry : String × Language}
    (member : entry ∈ insertEntry extension language entries) :
    entry = (extension, language) ∨ entry ∈ entries := by
  induction entries with
  | nil => exact .inl (List.mem_singleton.mp member)
  | cons first rest ih =>
    rw [insertEntry] at member
    split at member
    · exact List.mem_cons.mp member
    · split at member
      · cases List.mem_cons.mp member with
        | inl same => exact .inl same
        | inr later => exact .inr (List.mem_cons_of_mem _ later)
      · cases List.mem_cons.mp member with
        | inl same => exact .inr (same ▸ List.mem_cons_self)
        | inr later => exact (ih later).imp_right (List.mem_cons_of_mem _)

theorem pairwise_insertEntry (extension : String) (language : Language)
    {entries : List (String × Language)} (ascending : entries.Pairwise fun a b => a.1 < b.1) :
    (insertEntry extension language entries).Pairwise fun a b => a.1 < b.1 := by
  induction entries with
  | nil => exact List.pairwise_singleton _ _
  | cons first rest ih =>
    obtain ⟨below, ordered⟩ := List.pairwise_cons.mp ascending
    rw [insertEntry]
    split
    · rename_i smaller
      refine List.pairwise_cons.mpr ⟨fun entry member => ?_, ascending⟩
      cases List.mem_cons.mp member with
      | inl same => exact same ▸ smaller
      | inr later => exact String.lt_trans smaller (below entry later)
    · rename_i notSmaller
      split
      · rename_i same
        exact List.pairwise_cons.mpr ⟨fun entry member => same ▸ below entry member, ordered⟩
      · rename_i different
        have larger : first.1 < extension :=
          Std.lt_of_le_of_ne (Std.not_lt.mp notSmaller) fun same => different same.symm
        refine List.pairwise_cons.mpr ⟨fun entry member => ?_, ih ordered⟩
        cases mem_insertEntry member with
        | inl same => exact same ▸ larger
        | inr later => exact below entry later

/-- The table with one more entry; an entry of the same extension is replaced. -/
def insert (table : ExtensionTable) (extension : String) (language : Language) :
    ExtensionTable where
  entries := insertEntry extension language table.entries
  ascending := pairwise_insertEntry extension language table.ascending

/-- Whether two texts are equal but for the case of ASCII letters. -/
def sameLetters (a b : List Char) : Bool :=
  a.map Char.toLower == b.map Char.toLower

/-- The language of the first entry for an extension. The leading dots of an entry do not count, nor
does the case of ASCII letters. -/
def find? (table : ExtensionTable) (extension : List Char) : Option Language :=
  (table.entries.find? fun entry => sameLetters (entry.1.toList.dropWhile (· == '.')) extension).map
    (·.2)

end ExtensionTable

end Symtab
