import Symtab.Proofs.JsonText
import Symtab.Report.Document

/-!
# Reports are read back

The text of a report holds all of it: reading the text gives the same report, with the same fields
left out. The only limit is that numbers are read back if they fit into 64 bits.
-/

set_option autoImplicit false

namespace Symtab

theorem Json.word64?_ofNat {value : Nat} (fits : value < UInt64.size) :
    (Json.ofNat value).word64? = some value := by
  simp [Json.ofNat, Json.word64?, fits]

/-- A list is read back item by item. -/
theorem mapM_map_eq_some {α β : Type} {write : α → β} {read : β → Option α} {items : List α}
    (each : ∀ item ∈ items, read (write item) = some item) :
    (items.map write).mapM read = some items := by
  induction items with
  | nil => rfl
  | cons item others ih =>
    obtain ⟨first, further⟩ := List.forall_mem_cons.mp each
    simp [first, ih further]

/-!
## Records
-/

namespace Symbol

/-- The four shapes that a record can have differ in the fields that are left out. -/
theorem ofJson?_toJson {symbol : Symbol} (fits : symbol.line < UInt64.size) :
    ofJson? symbol.toJson = some symbol := by
  obtain ⟨name, kind, scope, line, dataType, language, description⟩ := symbol
  cases dataType <;> cases description
  all_goals simp [ofJson?, toJson, Json.optionalField, Json.optionalText, Json.given?, Json.field?,
    Json.text?, Json.word64?_ofNat fits, Kind.ofId?_id, Language.ofExactId?_id]

private theorem toJson_whole (symbol : Symbol) (levels : Nat) :
    Json.WholeWithin (levels + 1) symbol.toJson := by
  refine .object fun field member => ?_
  have optional :
      ∀ name text, field ∈ Json.optionalField name text → Json.WholeWithin levels field.2 := by
    intro name text listed
    cases text with
    | none => cases listed
    | some text =>
      cases List.mem_singleton.mp listed
      exact .string text
  simp only [List.mem_append, List.mem_cons, List.not_mem_nil, or_false] at member
  rcases member with (((rfl | rfl | rfl | rfl) | dataType) | rfl) | description
  · exact .string _
  · exact .string _
  · exact .string _
  · exact .int _
  · exact optional _ _ dataType
  · exact .string _
  · exact optional _ _ description

end Symbol

/-!
## Counts
-/

theorem KindCount.count_le_of_mem_add {kind : Kind} {counts : List KindCount} {bound : Nat}
    (below : ∀ entry ∈ counts, entry.count ≤ bound) :
    ∀ entry ∈ KindCount.add kind counts, entry.count ≤ bound + 1 := by
  induction counts with
  | nil => simp [KindCount.add]
  | cons first rest ih =>
    obtain ⟨firstBelow, restBelow⟩ := List.forall_mem_cons.mp below
    rw [KindCount.add]
    split
    · exact List.forall_mem_cons.mpr ⟨Nat.succ_le_succ firstBelow, fun entry member =>
        Nat.le_succ_of_le (restBelow entry member)⟩
    · exact List.forall_mem_cons.mpr ⟨Nat.le_succ_of_le firstBelow, ih restBelow⟩

/-- No kind has more symbols than there are. -/
theorem count_le_of_mem_kindCounts {symbols : List Symbol} :
    ∀ entry ∈ kindCounts symbols, entry.count ≤ symbols.length := by
  induction symbols using List.reverseRecOn with
  | nil => simp [kindCounts]
  | append_singleton symbols symbol ih =>
    rw [kindCounts, List.foldl_append, List.length_append]
    exact KindCount.count_le_of_mem_add ih

/-!
## Documents
-/

namespace Document

/-- Every number of the report fits into 64 bits. -/
structure Fits64 (document : Document) : Prop where
  filesScanned : document.filesScanned < UInt64.size
  totalSymbols : document.totalSymbols < UInt64.size
  lines : ∀ file ∈ document.files, ∀ symbol ∈ file.symbols, symbol.line < UInt64.size
  counts : ∀ counts ∈ document.counts, ∀ entry ∈ counts, entry.count < UInt64.size

private theorem fileOfJson?_fileToJson {file : ScannedFile}
    (fits : ∀ symbol ∈ file.symbols, symbol.line < UInt64.size) :
    fileOfJson? (fileToJson file) = some file := by
  have symbols := mapM_map_eq_some fun symbol member => Symbol.ofJson?_toJson (fits symbol member)
  simp [fileOfJson?, fileToJson, Json.field?, Json.text?, Json.items?,
    Language.ofExactId?_id, symbols]

private theorem countOfJson?_countToJson {entry : KindCount} (fits : entry.count < UInt64.size) :
    countOfJson? (countToJson entry) = some entry := by
  simp [countOfJson?, countToJson, Json.field?, Json.text?, Json.word64?_ofNat fits, Kind.ofId?_id]

private theorem ofJson?_toJson {document : Document} (fits : document.Fits64) :
    ofJson? document.toJson = some document := by
  have files := mapM_map_eq_some fun file member => fileOfJson?_fileToJson (fits.lines file member)
  obtain ⟨version, filesScanned, totalSymbols, files, counts⟩ := document
  cases counts with
  | none =>
    simp [ofJson?, toJson, countsOfJson?, Json.given?, Json.field?, Json.text?, Json.items?,
      Json.word64?_ofNat fits.filesScanned, Json.word64?_ofNat fits.totalSymbols, files]
  | some counts =>
    have entries :=
      mapM_map_eq_some fun entry member =>
        countOfJson?_countToJson (fits.counts counts rfl entry member)
    simp [ofJson?, toJson, countsOfJson?, Json.given?, Json.field?, Json.text?, Json.items?,
      Json.word64?_ofNat fits.filesScanned, Json.word64?_ofNat fits.totalSymbols, files, entries]

private theorem arrayOf_whole {α : Type} {write : α → Json} {levels : Nat}
    (each : ∀ item, Json.WholeWithin levels (write item)) (items : List α) :
    Json.WholeWithin (levels + 1) (.array (items.map write)) := by
  refine .array fun value member => ?_
  obtain ⟨item, _, rfl⟩ := List.mem_map.mp member
  exact each item

private theorem fileToJson_whole (file : ScannedFile) (levels : Nat) :
    Json.WholeWithin (levels + 3) (fileToJson file) := by
  refine .object ?_
  simp only [List.forall_mem_cons]
  exact ⟨.string _, .string _, arrayOf_whole (fun symbol => symbol.toJson_whole levels) _, by simp⟩

private theorem countToJson_whole (entry : KindCount) (levels : Nat) :
    Json.WholeWithin (levels + 1) (countToJson entry) := by
  refine .object ?_
  simp only [List.forall_mem_cons]
  exact ⟨.string _, .int _, by simp⟩

private theorem toJson_whole (document : Document) (levels : Nat) :
    Json.WholeWithin (levels + 5) document.toJson := by
  refine .object ?_
  simp only [List.forall_mem_append, List.forall_mem_cons]
  refine ⟨⟨.string _, .int _, .int _, arrayOf_whole (fun file => fileToJson_whole file levels) _,
    by simp⟩, ?_⟩
  cases document.counts with
  | none => simp
  | some counts =>
    intro field member
    cases List.mem_singleton.mp member
    exact arrayOf_whole (fun entry => countToJson_whole entry (levels + 2)) _

/-- The text of a report is read back as the report. -/
theorem parse_print {document : Document} (fits : document.Fits64) :
    (Json.parse? document.print).bind ofJson? = some document := by
  rw [print, (toJson_whole document 122).parse?_indented, Option.bind_some, ofJson?_toJson fits]

private theorem fits64_ofFiles {files : List ScannedFile} (count : files.length < UInt64.size)
    (total : (allSymbols files).length < UInt64.size)
    (lines : ∀ file ∈ files, ∀ symbol ∈ file.symbols, symbol.line < UInt64.size)
    (withCounts : Bool) :
    (ofFiles files withCounts).Fits64 where
  filesScanned := count
  totalSymbols := total
  lines := by
    intro file member
    obtain ⟨original, listed, rfl⟩ := List.mem_map.mp member
    exact lines original listed
  counts := by
    intro counts given entry member
    cases withCounts with
    | false => cases given
    | true =>
      cases given
      exact Nat.lt_of_le_of_lt (count_le_of_mem_kindCounts entry member) total

end Document

/-- The text of the report on any files is read back as that report, with every field as it was and
the same ones left out. The numbers of files and symbols and the numbers of lines are those that fit
into 64 bits. -/
theorem report_read_back {files : List ScannedFile} (count : files.length < UInt64.size)
    (total : totalSymbols files < UInt64.size)
    (lines : ∀ file ∈ files, ∀ symbol ∈ file.symbols, symbol.line < UInt64.size)
    (withCounts : Bool) :
    (Json.parse? (Document.ofFiles files withCounts).print).bind Document.ofJson? =
      some (Document.ofFiles files withCounts) := by
  rw [totalSymbols_eq_length] at total
  exact Document.parse_print (Document.fits64_ofFiles count total lines withCounts)

/-- A file with quotes, control characters and a backslash in its texts, and a symbol on the last
line that can be numbered. -/
theorem report_with_escapes_read_back :
    let symbol : Symbol :=
      { name := "a\"\\b\x01\x7fé", kind := .imported, scope := "\t\x0c\n",
        line := 0xffffffffffffffff, language := .csharp,
        description := "" }
    let files : List ScannedFile := [⟨"dir\\a\r.cs", .csharp, [symbol]⟩]
    (files.length < UInt64.size ∧ totalSymbols files < UInt64.size ∧
      ∀ file ∈ files, ∀ symbol ∈ file.symbols, symbol.line < UInt64.size) ∧
    (Json.parse? (Document.ofFiles files true).print).bind Document.ofJson? =
      some (Document.ofFiles files true) := by
  intro symbol files
  have count : files.length < UInt64.size := by decide
  have total : totalSymbols files < UInt64.size := by decide
  have lines : ∀ file ∈ files, ∀ symbol ∈ file.symbols, symbol.line < UInt64.size := by
    simp [files, symbol, UInt64.size]
  exact ⟨⟨count, total, lines⟩, report_read_back count total lines true⟩

end Symtab
