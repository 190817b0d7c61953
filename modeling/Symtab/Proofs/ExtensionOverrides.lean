import Mathlib.Data.List.TakeDrop
import Symtab.Config.Basic
import Symtab.Proofs.SmallLetters

/-!
# Languages set by the configuration

The extension of a file is compared in its lower-case form with keys in which only the letters of
ASCII are made small. A key therefore decides the language of the files whose extension has the
lower-case form of the key, provided that it has no capital letter beyond ASCII. Of several such
keys the first one in order counts, and without one the usual languages do.
-/

set_option autoImplicit false

namespace Symtab

namespace Path

private theorem dot_not_mem_of_splitExtension? {name stem extension : List Char}
    (split : splitExtension? name = some (stem, extension)) : '.' ∉ extension := by
  rw [splitExtension?, List.span_eq_takeWhile_dropWhile] at split
  split at split
  · next after dot before parts =>
    cases split
    rw [Prod.mk.injEq] at parts
    rw [List.mem_reverse, ← parts.1]
    intro member
    have outside := List.mem_takeWhile_imp member
    revert outside
    decide
  · cases split

private theorem dot_not_mem_extension {path extension : List Char}
    (ends : extension? path = some extension) : '.' ∉ extension := by
  obtain ⟨name, -, named⟩ := Option.bind_eq_some_iff.mp ends
  obtain ⟨⟨stem, after⟩, split, kept⟩ := Option.bind_eq_some_iff.mp named
  dsimp only at kept
  split at kept
  · cases kept
  · cases kept
    exact dot_not_mem_of_splitExtension? split

end Path

namespace ExtensionTable

/-- The key of a table without its leading dots. -/
def bare (key : String) : List Char :=
  key.toList.dropWhile (· == '.')

/-- The key stands for the extension: but for its leading dots it has the same lower-case form. -/
def Denotes (key : String) (extension : List Char) : Prop :=
  Text.lower (bare key) = Text.lower extension

/-- The key decides the language of files with the extension: it stands for the extension and has no
capital letter beyond ASCII. -/
def Decides (key : String) (extension : List Char) : Prop :=
  Denotes key extension ∧ Text.AsciiCapitals (bare key)

instance (key : String) (extension : List Char) : Decidable (Denotes key extension) :=
  inferInstanceAs (Decidable (_ = _))

instance (key : String) (extension : List Char) : Decidable (Decides key extension) :=
  inferInstanceAs (Decidable (_ ∧ _))

private theorem sameLetters_lower_iff (key extension : List Char) :
    sameLetters key (Text.lower extension) = true ↔
      Text.lower key = Text.lower extension ∧ Text.AsciiCapitals key := by
  rw [sameLetters, beq_iff_eq, Text.map_toLower_lower]
  constructor
  · intro same
    have plain : Text.AsciiCapitals key := by
      intro c member
      by_cases ascii : c.toNat < 0x80
      · exact .inl ascii
      · have written : c.toLower ∈ Text.lower extension := same ▸ List.mem_map_of_mem member
        rw [Text.toLower_eq_self (.inr (by omega))] at written
        exact .inr (Text.isSmall_of_mem_lower written)
    exact ⟨(Text.lower_eq_map plain).trans same, plain⟩
  · intro ⟨same, plain⟩
    rw [← Text.lower_eq_map plain, same]

/-- In a table in ascending order, the first entry of a kind is the one with the least key. -/
theorem find?_of_least {entries : List (String × Language)}
    (ascending : entries.Pairwise fun a b => a.1 < b.1) {wanted : String × Language → Bool}
    {entry : String × Language} (member : entry ∈ entries) (isWanted : wanted entry = true)
    (least : ∀ other ∈ entries, wanted other = true → ¬other.1 < entry.1) :
    entries.find? wanted = some entry := by
  cases found : entries.find? wanted with
  | none => exact absurd isWanted (List.find?_eq_none.mp found entry member)
  | some first =>
    obtain ⟨firstWanted, front, back, rfl, unwanted⟩ := List.find?_eq_some_iff_append.mp found
    rcases List.mem_append.mp member with before | behind
    · have not := unwanted entry before
      rw [isWanted] at not
      cases not
    · rcases List.mem_cons.mp behind with rfl | later
      · rfl
      · have below := (List.pairwise_cons.mp (List.pairwise_append.mp ascending).2.1).1 entry later
        exact absurd below (least first (by simp) firstWanted)

section Lookup

variable {table : ExtensionTable} {extension : List Char}

private theorem find?_lower_of_least {entry : String × Language} (member : entry ∈ table.entries)
    (decides : Decides entry.1 extension)
    (least : ∀ other ∈ table.entries, Decides other.1 extension → ¬other.1 < entry.1) :
    table.find? (Text.lower extension) = some entry.2 := by
  have first :
      table.entries.find? (fun entry => sameLetters (bare entry.1) (Text.lower extension)) =
        some entry :=
    find?_of_least table.ascending member ((sameLetters_lower_iff _ _).mpr decides)
      fun other otherMember wanted =>
        least other otherMember ((sameLetters_lower_iff _ _).mp wanted)
  exact congrArg (Option.map Prod.snd) first

private theorem find?_lower_eq_none
    (undecided : ∀ entry ∈ table.entries, ¬Decides entry.1 extension) :
    table.find? (Text.lower extension) = none := by
  rw [find?, Option.map_eq_none_iff, List.find?_eq_none]
  exact fun entry member wanted => undecided entry member ((sameLetters_lower_iff _ _).mp wanted)

end Lookup

end ExtensionTable

namespace Text

private theorem eq_dot_of_mem_lowerChar {c : Char} (member : '.' ∈ lowerChar c) : c = '.' := by
  rw [lowerChar] at member
  split at member
  · next ascii =>
    have only : ∀ point < 0x80, '.' = (Char.ofNat point).toLower → Char.ofNat point = '.' := by
      decide +kernel
    exact @forall_ascii (fun c => '.' = c.toLower → c = '.') only c ascii
      (List.mem_singleton.mp member)
  · split at member
    · exact absurd member (by decide)
    · rw [List.mem_singleton, lowerBeyondAscii] at member
      split at member
      · next image found =>
        -- The small letters of the table stand behind the dot.
        obtain ⟨run, listed, inRun⟩ := List.exists_of_findSome?_eq_some found
        have bound := (caseRuns_bounds run listed).1
        obtain ⟨-, written⟩ := CaseRun.lower?_eq_some_iff.mp inRun
        cases toNat_ofNat image with
        | inl same =>
          rw [← member] at same
          have dot : '.'.toNat = 0x2E := rfl
          omega
        | inr zero =>
          rw [zero] at member
          cases member
      · exact member.symm

private theorem dot_not_mem_lower {text : List Char} (absent : '.' ∉ text) : '.' ∉ lower text := by
  intro member
  cases mem_lower_cases member with
  | inl sigma => exact absurd sigma (by decide)
  | inr written =>
    obtain ⟨c, inside, source⟩ := written
    exact absent (eq_dot_of_mem_lowerChar source ▸ inside)

private theorem dropWhile_dot {text : List Char} (absent : '.' ∉ text) :
    text.dropWhile (· == '.') = text := by
  cases text with
  | nil => rfl
  | cons c rest =>
    have other : (c == '.') = false :=
      beq_false_of_ne fun same => absent (same ▸ List.mem_cons_self)
    rw [List.dropWhile_cons, other, if_neg Bool.false_ne_true]

end Text

theorem Language.ofExtension_lower {extension : List Char} (noDot : '.' ∉ extension) :
    ofExtension (String.ofList (Text.lower extension)) = ofExtension (String.ofList extension) := by
  rw [ofExtension, ofExtension, String.toList_ofList, String.toList_ofList,
    Text.dropWhile_dot noDot, Text.dropWhile_dot (Text.dot_not_mem_lower noDot), Text.lower_lower]

namespace Config

variable (config : Config) {path extension : List Char}

private theorem languageFor?_of_extension (ends : Path.extension? path = some extension) :
    config.languageFor? path =
      (config.extensions.find? (Text.lower extension)).or
        (Language.ofExtension (String.ofList extension)).toOption := by
  rw [languageFor?, ends, ← Language.ofExtension_lower (Path.dot_not_mem_extension ends),
    Option.bind_eq_bind, Option.bind_some]
  dsimp only
  cases config.extensions.find? (Text.lower extension) with
  | none => rfl
  | some language => rfl

/-- An extension is looked up among the keys that stand for it and have no capital letter beyond
ASCII. The first of these keys in ascending order gives the language; if there is none, the usual
languages are tried; and a path without an extension has no language. -/
theorem language_by_first_key (path : List Char) :
    (Path.extension? path = none → config.languageFor? path = none) ∧
    ∀ extension, Path.extension? path = some extension →
      (∀ entry ∈ config.extensions.entries, ExtensionTable.Decides entry.1 extension →
        (∀ other ∈ config.extensions.entries, ExtensionTable.Decides other.1 extension →
          ¬other.1 < entry.1) →
          config.languageFor? path = some entry.2) ∧
      ((∀ entry ∈ config.extensions.entries, ¬ExtensionTable.Decides entry.1 extension) →
        config.languageFor? path = (Language.ofExtension (String.ofList extension)).toOption) := by
  refine ⟨fun none => by rw [languageFor?, none]; rfl, fun extension ends => ⟨?_, ?_⟩⟩
  · intro entry member decides least
    rw [languageFor?_of_extension config ends,
      ExtensionTable.find?_lower_of_least member decides least, Option.some_or]
  · intro undecided
    rw [languageFor?_of_extension config ends, ExtensionTable.find?_lower_eq_none undecided,
      Option.none_or]

/-- Two keys stand for the extension, and the one with the dot and the capital letter comes
first. -/
theorem header_by_first_key :
    let config : Config := { extensions := (ExtensionTable.empty.insert "h" .rust).insert ".H" .c }
    Path.extension? "src/lib.h".toList = some ['h'] ∧ ExtensionTable.Decides "h" ['h'] ∧
      ExtensionTable.Decides ".H" ['h'] ∧
      config.languageFor? "src/lib.h".toList = some .c := by
  intro config
  have ends : Path.extension? "src/lib.h".toList = some ['h'] := by decide +kernel
  have capital : ExtensionTable.Decides ".H" ['h'] := by decide +kernel
  have entries : config.extensions.entries = [(".H", .c), ("h", .rust)] := by decide +kernel
  refine ⟨ends, by decide +kernel, capital, ?_⟩
  refine ((language_by_first_key config _).2 ['h'] ends).1 (".H", .c) ?_ capital ?_
  · rw [entries]
    exact List.mem_cons_self
  · rw [entries]
    decide +kernel

/-- The key is the extension itself, but its letter is a capital one beyond ASCII. -/
theorem accented_key_missed :
    let config : Config := { extensions := ExtensionTable.empty.insert "É" .c }
    ("É", Language.c) ∈ config.extensions.entries ∧ Path.extension? "a.É".toList = some "É".toList ∧
      ExtensionTable.Denotes "É" "É".toList ∧ config.languageFor? "a.É".toList = none := by
  refine ⟨?_, ?_, rfl, ?_⟩
  · decide +kernel
  · decide +kernel
  · decide +kernel

end Config

end Symtab
