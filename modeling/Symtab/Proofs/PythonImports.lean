import Mathlib.Data.List.Lemmas
import Symtab.Proofs.Excerpt
import Symtab.Proofs.LeadingWords

/-!
# Import lists in Python

Lists of imports as they are written, with other names, stars and parentheses. Each item of a list
is reported once, in order, and under one name: without another name a path brings in its first
word, with one all of it; a star stands for the module that it is taken from. Nothing else is read
in such a line, though the word in front of a parenthesis looks like a call.
-/

set_option autoImplicit false

namespace Symtab.Rules.Python

open Pattern

/-!
## Lines
-/

/-- A word that is no keyword. -/
structure Identifier extends Word where
  notKeyword : isKeyword text = false

/-- Identifiers with dots between them. -/
structure DottedPath where
  first : Identifier
  others : List Identifier

def DottedPath.text (path : DottedPath) : List Char :=
  path.first.text ++ path.others.flatMap fun name => '.' :: name.text

/-- The module that names are taken from: dots and words that are no keywords. -/
structure ModuleName where
  text : List Char
  nonempty : text ≠ []
  inName : ∀ c ∈ text, wordOr ['.'] c = true
  noKeyword : ∀ word ∈ wordsIn text, isKeyword word = false

/-- The other name that an item is given. -/
def renameText : Option Identifier → List Char
  | none => []
  | some name => " as ".toList ++ name.text

/-- A module to import: `a.b` or `a.b as c`. -/
structure ModuleItem where
  path : DottedPath
  rename : Option Identifier

namespace ModuleItem

def text (item : ModuleItem) : List Char :=
  item.path.text ++ renameText item.rename

/-- What the item brings in: the first word of the path, or all of it under another name. -/
def name (item : ModuleItem) : List Char :=
  match item.rename with
  | none => item.path.first.text
  | some _ => item.path.text

end ModuleItem

/-- A name to import from a module: `a`, `a as b` or a star for all of them. -/
inductive MemberItem where
  | named (name : Identifier) (rename : Option Identifier)
  | star

namespace MemberItem

def text : MemberItem → List Char
  | .named name rename => name.text ++ renameText rename
  | .star => ['*']

def name (source : ModuleName) : MemberItem → List Char
  | .named name _ => name.text
  | .star => source.text

end MemberItem

/-- At least one item. -/
structure ItemList (α : Type) where
  first : α
  others : List α

namespace ItemList

variable {α : Type}

def items (list : ItemList α) : List α :=
  list.first :: list.others

/-- The items with commas between them. -/
def text (itemText : α → List Char) (list : ItemList α) : List Char :=
  itemText list.first ++ list.others.flatMap fun item => ',' :: ' ' :: itemText item

end ItemList

/-- A parenthesis around a list that has them. -/
def parenthesis (c : Char) : Bool → List Char
  | true => [c]
  | false => []

/-- Names to import, with or without parentheses around them. -/
def memberText (list : ItemList MemberItem) (inParentheses : Bool) : List Char :=
  parenthesis '(' inParentheses ++ (list.text MemberItem.text ++ parenthesis ')' inParentheses)

/-- A line that imports modules, or names from a module. -/
inductive ImportLine where
  | modules (list : ItemList ModuleItem)
  | members (source : ModuleName) (list : ItemList MemberItem) (inParentheses : Bool)

namespace ImportLine

def text : ImportLine → List Char
  | .modules list => "import ".toList ++ list.text ModuleItem.text
  | .members source list inParentheses =>
    "from ".toList ++ (source.text ++ (" import ".toList ++ memberText list inParentheses))

/-- The names that the line brings in. -/
def names : ImportLine → List (List Char)
  | .modules list => list.items.map ModuleItem.name
  | .members source list _ => list.items.map (MemberItem.name source)

end ImportLine

/-!
## Characters
-/

theorem DottedPath.inPath (path : DottedPath) : ∀ c ∈ path.text, wordOr ['.'] c = true := by
  intro c member
  rcases List.mem_append.mp member with first | further
  · exact path.first.wordOr_text _ c first
  · obtain ⟨name, _, inName⟩ := List.mem_flatMap.mp further
    rcases List.mem_cons.mp inName with rfl | inWord
    · decide
    · exact name.wordOr_text _ c inWord

private theorem inRename (rename : Option Identifier) :
    ∀ c ∈ renameText rename, wordOr [' '] c = true := by
  cases rename with
  | none => exact List.forall_mem_nil _
  | some name => exact List.forall_mem_append.mpr ⟨by decide, name.wordOr_text _⟩

/-- The characters of an item, and of a list of items but for the commas. -/
abbrev inItem : Char → Bool :=
  wordOr [' ', '.', '*']

theorem ModuleItem.inItem (item : ModuleItem) : ∀ c ∈ item.text, inItem c = true :=
  List.forall_mem_append.mpr ⟨fun c member =>
    wordOr_of_subset (by decide) (item.path.inPath c member),
    fun c member => wordOr_of_subset (by decide) (inRename item.rename c member)⟩

theorem MemberItem.inItem (item : MemberItem) : ∀ c ∈ item.text, inItem c = true := by
  cases item with
  | named name rename =>
    exact List.forall_mem_append.mpr ⟨name.wordOr_text _,
      fun c member => wordOr_of_subset (by decide) (inRename rename c member)⟩
  | star => exact List.forall_mem_singleton.mpr (by decide)

theorem ItemList.inList {α : Type} {itemText : α → List Char}
    (each : ∀ item, ∀ c ∈ itemText item, inItem c = true) (list : ItemList α) :
    ∀ c ∈ list.text itemText, wordOr [' ', '.', '*', ','] c = true := by
  have inItem (item : α) : ∀ c ∈ itemText item, wordOr [' ', '.', '*', ','] c = true :=
    fun c member => wordOr_of_subset (by decide) (each item c member)
  refine List.forall_mem_append.mpr ⟨inItem list.first, fun c member => ?_⟩
  obtain ⟨item, _, further⟩ := List.mem_flatMap.mp member
  exact List.forall_mem_cons.mpr
    ⟨by decide, List.forall_mem_cons.mpr ⟨by decide, inItem item⟩⟩ c further

namespace ImportLine

theorem inLine (line : ImportLine) :
    ∀ c ∈ line.text, wordOr [' ', '.', '*', ',', '(', ')'] c = true := by
  have inParenthesis (present : Bool) : ∀ c ∈ parenthesis '(' present ++ parenthesis ')' present,
      wordOr [' ', '.', '*', ',', '(', ')'] c = true := by
    cases present with
    | true => decide
    | false => exact List.forall_mem_nil _
  cases line with
  | modules list =>
    exact List.forall_mem_append.mpr ⟨by decide,
      fun c member => wordOr_of_subset (by decide) (list.inList ModuleItem.inItem c member)⟩
  | members source list inParentheses =>
    obtain ⟨opening, closing⟩ := List.forall_mem_append.mp (inParenthesis inParentheses)
    refine List.forall_mem_append.mpr ⟨by decide,
      List.forall_mem_append.mpr ⟨fun c member => ?_, List.forall_mem_append.mpr
      ⟨by decide, List.forall_mem_append.mpr ⟨opening,
        List.forall_mem_append.mpr ⟨fun c member => ?_, closing⟩⟩⟩⟩⟩
    · exact wordOr_of_subset (by decide) (source.inName c member)
    · exact wordOr_of_subset (by decide) (list.inList MemberItem.inItem c member)

theorem not_mem_text (line : ImportLine) {c : Char}
    (outside : wordOr [' ', '.', '*', ',', '(', ')'] c = false) : c ∉ line.text := by
  intro member
  rw [line.inLine c member] at outside
  cases outside

end ImportLine

/-!
## Keywords
-/

/-- Of the keywords, only those of an import are words of the text. -/
def OnlyImportKeywords (text : List Char) : Prop :=
  ∀ word ∈ wordsIn text, isKeyword word = true →
    word ∈ ["import".toList, "from".toList, "as".toList]

instance (text : List Char) : Decidable (OnlyImportKeywords text) :=
  inferInstanceAs (Decidable (∀ word ∈ wordsIn text, isKeyword word = true →
    word ∈ ["import".toList, "from".toList, "as".toList]))

theorem OnlyImportKeywords.append {start rest : List Char} (first : OnlyImportKeywords start)
    {c : Char} (edge : Text.isWord c = false) (second : OnlyImportKeywords rest) :
    OnlyImportKeywords (start ++ c :: rest) := by
  rw [OnlyImportKeywords, wordsIn_split edge]
  exact List.forall_mem_append.mpr ⟨first, second⟩

theorem OnlyImportKeywords.flatMap {α : Type} {piece : α → List Char}
    (joins : ∀ start item, OnlyImportKeywords start → OnlyImportKeywords (start ++ piece item))
    {start : List Char} (first : OnlyImportKeywords start) (items : List α) :
    OnlyImportKeywords (start ++ items.flatMap piece) := by
  induction items generalizing start with
  | nil => simpa using first
  | cons item items ih =>
    rw [List.flatMap_cons, ← List.append_assoc]
    exact ih (joins start item first)

private theorem onlyImportKeywords_nil : OnlyImportKeywords [] := by
  decide

theorem Identifier.onlyImportKeywords (name : Identifier) : OnlyImportKeywords name.text := by
  have single : wordsIn name.text = [name.text] :=
    List.splitOnP_eq_singleton fun c member => by simp [name.isWord c member]
  rw [OnlyImportKeywords, single]
  refine List.forall_mem_singleton.mpr fun keyword => ?_
  rw [name.notKeyword] at keyword
  cases keyword

theorem DottedPath.onlyImportKeywords (path : DottedPath) : OnlyImportKeywords path.text :=
  .flatMap (fun _ name first => first.append (by decide) name.onlyImportKeywords)
    path.first.onlyImportKeywords path.others

theorem OnlyImportKeywords.rename {text : List Char} (only : OnlyImportKeywords text)
    (rename : Option Identifier) :
    OnlyImportKeywords (text ++ renameText rename) := by
  cases rename with
  | none => simpa [renameText] using only
  | some name =>
    have as : OnlyImportKeywords "as".toList := by decide
    exact only.append (by decide) (as.append (by decide) name.onlyImportKeywords)

theorem MemberItem.onlyImportKeywords (item : MemberItem) : OnlyImportKeywords item.text := by
  cases item with
  | named name rename => exact name.onlyImportKeywords.rename rename
  | star => decide

theorem ItemList.onlyImportKeywords {α : Type} {itemText : α → List Char}
    (each : ∀ item, OnlyImportKeywords (itemText item)) (list : ItemList α) :
    OnlyImportKeywords (list.text itemText) :=
  .flatMap (fun _ item first => first.append (by decide)
    (onlyImportKeywords_nil.append (by decide) (each item))) (each list.first)
    list.others

theorem ImportLine.onlyImportKeywords (line : ImportLine) : OnlyImportKeywords line.text := by
  have keyword : OnlyImportKeywords "import".toList := by decide
  cases line with
  | modules list =>
    exact keyword.append (by decide)
      (list.onlyImportKeywords fun item => item.path.onlyImportKeywords.rename item.rename)
  | members source list inParentheses =>
    have origin : OnlyImportKeywords "from".toList := by decide
    have module : OnlyImportKeywords source.text := by
      intro word member isKeyword
      rw [source.noKeyword word member] at isKeyword
      cases isKeyword
    have listed := list.onlyImportKeywords MemberItem.onlyImportKeywords
    have enclosed : OnlyImportKeywords (memberText list inParentheses) := by
      cases inParentheses with
      | true =>
        exact onlyImportKeywords_nil.append (by decide)
          (listed.append (by decide) onlyImportKeywords_nil)
      | false => simpa [memberText, parenthesis] using listed
    exact origin.append (by decide)
      (module.append (by decide) (keyword.append (by decide) enclosed))

/-- The keyword of a definition is none of an import. -/
theorem find?_eq_none_of_onlyImportKeywords {keyword : String} {pattern : Pattern}
    (led : pattern.LedBy [keyword]) (nonempty : keyword ≠ "")
    (isWord : ∀ c ∈ keyword.toList, Text.isWord c = true)
    (reserved : isKeyword keyword.toList = true)
    (other : keyword.toList ∉ ["import".toList, "from".toList, "as".toList]) {line : List Char}
    (only : OnlyImportKeywords line) : pattern.find? line = none := by
  refine find?_eq_none_of_ledBy led (List.forall_mem_singleton.mpr ⟨nonempty, isWord⟩) ?_
  exact List.forall_mem_singleton.mpr fun member => other (only _ member reserved)

theorem function_ledBy : function.pattern.LedBy ["def"] := by
  refine (((ledBy_keyword_blanks ?_).append _).append _).append _
  intro before text rest captures kept reads
  exact ⟨"def", List.mem_singleton_self _, reads.1⟩

theorem classes_ledBy : classes.pattern.LedBy ["class"] := by
  refine (ledBy_keyword_blanks ?_).append _
  intro before text rest captures kept reads
  exact ⟨"class", List.mem_singleton_self _, reads.1⟩

/-- No rule for a definition or an assignment is about the line. -/
theorem ImportLine.find?_eq_none (line : ImportLine) :
    ∀ rule ∈ [function, classes, selfProperty, typedVariable, plainVariables],
      rule.pattern.find? line.text = none := by
  have absent {c : Char} (outside : wordOr [' ', '.', '*', ',', '(', ')'] c = false)
    {pattern : Pattern}
      (requires : pattern.Requires (· = c)) : pattern.find? line.text = none :=
    find?_eq_none_of_requires requires fun d member same =>
      line.not_mem_text outside (same ▸ member)
  simp only [List.forall_mem_cons]
  refine ⟨?_, ?_, absent (c := '=') (by decide) ?_, absent (c := ':') (by decide) ?_,
    absent (c := '=') (by decide) ?_, List.forall_mem_nil _⟩
  · exact find?_eq_none_of_onlyImportKeywords function_ledBy (by decide) (by decide) (by decide)
      (by decide) line.onlyImportKeywords
  · exact find?_eq_none_of_onlyImportKeywords classes_ledBy (by decide) (by decide) (by decide)
      (by decide) line.onlyImportKeywords
  · simp [selfProperty, assigned]
  · simp [typedVariable]
  · simp [plainVariables, assigned]

/-!
## The match
-/

theorem ItemList.exists_first {α : Type} {itemText : α → List Char}
    (each : ∀ item, ∃ c rest, itemText item = c :: rest ∧ wordOr ['*'] c = true)
    (list : ItemList α) :
    ∃ c rest, list.text itemText = c :: rest ∧ wordOr ['*'] c = true := by
  obtain ⟨c, rest, split, first⟩ := each list.first
  exact ⟨c, _, by rw [text, split, List.cons_append], first⟩

theorem ModuleItem.exists_first (item : ModuleItem) :
    ∃ c rest, item.text = c :: rest ∧ wordOr ['*'] c = true := by
  obtain ⟨c, rest, split, isWord⟩ := item.path.first.exists_first
  exact ⟨c, _, by rw [text, DottedPath.text, split]; rfl, by simp [wordOr, isWord]⟩

theorem MemberItem.exists_first (item : MemberItem) :
    ∃ c rest, item.text = c :: rest ∧ wordOr ['*'] c = true := by
  cases item with
  | named name rename =>
    obtain ⟨c, rest, split, isWord⟩ := name.exists_first
    exact ⟨c, _, by rw [text, split]; rfl, by simp [wordOr, isWord]⟩
  | star => exact ⟨'*', [], rfl, by decide⟩

private theorem exists_first_memberText (list : ItemList MemberItem) (inParentheses : Bool) :
    ∃ c rest, memberText list inParentheses = c :: rest ∧ wordOr ['*', '('] c = true := by
  cases inParentheses with
  | true => exact ⟨'(', _, rfl, by decide⟩
  | false =>
    obtain ⟨c, rest, split, first⟩ := list.exists_first MemberItem.exists_first
    exact ⟨c, rest, by simp [memberText, parenthesis, split], wordOr_of_subset (by decide) first⟩

/-- The texts that a match keeps of the line. -/
def ImportLine.captures : ImportLine → Captures
  | .modules list => [(.names, list.text ModuleItem.text)]
  | .members source list inParentheses =>
    [(.items, memberText list inParentheses), (.path, source.text)]

/-- What is listed goes to the end of the line. -/
theorem takes_listed {text : List Char} (nonempty : text ≠ []) (noRemark : '#' ∉ text) (slot : Slot)
    (before : List Char) (captures : Captures) :
    (capture slot (many1 (noneOf ['#']))).Takes ⟨before, text⟩ ⟨text.reverse ++ before, []⟩ captures
      ((slot, text) :: captures) := by
  have inside : ∀ c ∈ text, noneOf ['#'] c = true := by
    intro c member
    have different : c ≠ '#' := fun same => noRemark (same ▸ member)
    simp [noneOf, different]
  have stops : ∀ c ∈ ([] : List Char).head?, noneOf ['#'] c = false := by simp
  have whole := (takes_many1 nonempty inside stops before captures).capture slot
  rwa [List.append_nil] at whole

private theorem takes_modules (list : ItemList ModuleItem)
    (noRemark : '#' ∉ list.text ModuleItem.text) :
    ∃ later, (text "import" ++ blanks1 ++ capture .names (many1 (noneOf ['#']))).Takes
      ⟨[], "import".toList ++ ' ' :: list.text ModuleItem.text⟩ later []
        [(.names, list.text ModuleItem.text)] := by
  obtain ⟨c, rest, split, first⟩ := list.exists_first ModuleItem.exists_first
  have stops : ∀ d ∈ (list.text ModuleItem.text).head?, Text.isBlank d = false := by
    rw [split]
    exact stops_before (isBlank_of_wordOr (by decide) first) _
  have nonempty : list.text ModuleItem.text ≠ [] := by simp [split]
  exact ⟨_, ((takes_literal "import".toList [] (' ' :: list.text ModuleItem.text) []).append
    (takes_blanks1_space stops _ [])).append (takes_listed nonempty noRemark .names _ [])⟩

theorem ModuleName.isBlank_head?_append (source : ModuleName) (rest : List Char) :
    ∀ c ∈ (source.text ++ rest).head?, Text.isBlank c = false := by
  obtain ⟨d, others, split⟩ := List.exists_cons_of_ne_nil source.nonempty
  have inName : wordOr ['.'] d = true := source.inName d (by rw [split]; exact List.mem_cons_self)
  rw [split]
  exact stops_before (isBlank_of_wordOr (by decide) inName) _

private theorem takes_members (source : ModuleName) (list : ItemList MemberItem)
    (inParentheses : Bool) (noRemark : '#' ∉ memberText list inParentheses) :
    ∃ later, (text "from" ++ blanks1 ++ capture .path (many1 (wordOr ['.'])) ++ blanks1 ++
      text "import" ++ blanks1 ++
        capture .items (many1 (noneOf ['#']))).Takes
      ⟨[], "from".toList ++ ' ' :: (source.text ++ ' ' ::
        ("import".toList ++ ' ' :: memberText list inParentheses))⟩ later []
        [(.items, memberText list inParentheses), (.path, source.text)] := by
  obtain ⟨c, rest, split, first⟩ := exists_first_memberText list inParentheses
  have stops : ∀ d ∈ (memberText list inParentheses).head?, Text.isBlank d = false := by
    rw [split]
    exact stops_before (isBlank_of_wordOr (by decide) first) _
  have nonempty : memberText list inParentheses ≠ [] := by simp [split]
  have origin := ((takes_literal "from".toList [] _ []).append
    (takes_blanks1_space (source.isBlank_head?_append
      (' ' :: ("import".toList ++ ' ' :: memberText list inParentheses))) _ [])).append
      ((takes_many1 source.nonempty source.inName (stops_before (by decide) _) _ []).capture .path)
  have keyword := (origin.append (takes_blanks1_space (stops_before (by decide) _) _ _)).append
    (takes_literal "import".toList _ (' ' :: memberText list inParentheses) _)
  exact ⟨_, (keyword.append (takes_blanks1_space stops _ _)).append
    (takes_listed nonempty noRemark .items _ _)⟩

theorem ImportLine.imports_finds (line : ImportLine) :
    imports.pattern.Finds line.text line.captures := by
  have noRemark : '#' ∉ line.text := line.not_mem_text (by decide)
  cases line with
  | modules list =>
    obtain ⟨later, listed⟩ :=
      takes_modules list fun member => noRemark (List.mem_append_right _ member)
    exact ((takes_lineStart _ []).append listed.firstChoice).finds
  | members source list inParentheses =>
    obtain ⟨later, listed⟩ := takes_members source list inParentheses fun member =>
      noRemark (List.mem_append_right _ (List.mem_append_right _ (List.mem_append_right _ member)))
    refine ((takes_lineStart _ []).append
      (.secondChoice (blocked_of_next (c := 'f') ?_ ?_ [] _) listed)).finds
    · simp
    · simp

/-!
## Names
-/

/-- What is read in the pieces between the commas, if a piece reads the same with and without what
closes the list. -/
theorem map_splitOn_text {α : Type} {itemText : α → List Char}
    (noComma : ∀ item, ',' ∉ itemText item) {read : List Char → List Char} {name : α → List Char}
    {closing : List Char} (noCommaClosing : ',' ∉ closing)
    (reads : ∀ item, ∀ finish ∈ [[], closing], read (' ' :: (itemText item ++ finish)) = name item)
    (list : ItemList α) {opening : List Char} (noCommaOpening : ',' ∉ opening)
    (readsFirst : ∀ item, ∀ finish ∈ [[], closing],
      read (opening ++ (itemText item ++ finish)) = name item) :
    ((opening ++ (list.text itemText ++ closing)).splitOn ',').map read = list.items.map name := by
  obtain ⟨first, others⟩ := list
  induction others generalizing opening first with
  | nil =>
    have absent : ',' ∉ opening ++ (itemText first ++ closing) := by
      simp [noCommaOpening, noComma, noCommaClosing]
    simpa [ItemList.text, ItemList.items, List.splitOn_eq_singleton absent] using readsFirst first
      closing (by simp)
  | cons next others ih =>
    have absent : ',' ∉ opening ++ itemText first := by simp [noCommaOpening, noComma]
    have spelled : opening ++ (ItemList.text itemText ⟨first, next :: others⟩ ++ closing) =
        (opening ++ itemText first) ++
          ',' :: ([' '] ++ (ItemList.text itemText ⟨next, others⟩ ++ closing)) := by
      simp [ItemList.text]
    have here : read (opening ++ itemText first) = name first := by
      simpa using readsFirst first [] (by simp)
    have further := @ih [' '] (by decide) reads next
    rw [spelled, List.splitOn_append_cons_self, List.map_append, List.splitOn_eq_singleton absent,
      List.map_singleton, here, further]
    rfl

theorem DottedPath.isBlank (path : DottedPath) : ∀ c ∈ path.text, Text.isBlank c = false :=
  fun c member => isBlank_of_wordOr (by decide) (path.inPath c member)

theorem DottedPath.not_mem_text (path : DottedPath) {c : Char} (outside : wordOr ['.'] c = false) :
    c ∉ path.text := by
  intro member
  rw [path.inPath c member] at outside
  cases outside

/-- The first word of a path ends where a dot comes, or what follows the path. -/
theorem DottedPath.exists_edge (path : DottedPath) {c : Char} (edge : Text.isWord c = false)
    (rest : List Char) :
    ∃ d others, path.text ++ c :: rest = path.first.text ++ d :: others ∧
    Text.isWord d = false := by
  rw [text]
  cases path.others with
  | nil => exact ⟨c, rest, by simp, edge⟩
  | cons next others => exact ⟨'.', _, by rw [List.flatMap_cons, List.append_assoc]; rfl, by decide⟩

theorem DottedPath.takeWhile_text (path : DottedPath) :
    path.text.takeWhile (· != '.') = path.first.text := by
  have inside : ∀ c ∈ path.first.text, (c != '.') = true := by
    intro c member
    have different : c ≠ '.' := by
      rintro rfl
      exact path.first.not_mem (by decide) member
    simpa using different
  rw [text, List.takeWhile_append_of_pos inside]
  cases path.others with
  | nil => simp
  | cons next others => simp

/-- The word in front of another name is no keyword of its own, so that the blank before a path is
not taken for the one before that keyword. -/
theorem DottedPath.cut?_text (path : DottedPath) {lead : List Char} (short : lead ∈ [[], [' ']])
    (name : Identifier) :
    Text.cut? " as ".toList (lead ++ (path.text ++ renameText (some name))) =
      some (lead ++ path.text, name.text) := by
  have cut :
      Text.cut? " as ".toList (path.text ++ renameText (some name)) = some (path.text, name.text) :=
    Text.cut?_append_needle (path.not_mem_text (by decide)) _ _
  have notHere :
      " as ".toList.isPrefixOf (' ' :: (path.text ++ renameText (some name))) = false := by
    rw [Bool.eq_false_iff, Ne, List.isPrefixOf_iff_prefix]
    rintro ⟨rest, same⟩
    obtain ⟨d, others, spelled, edge⟩ :=
      path.exists_edge (c := ' ') (by decide) ("as ".toList ++ name.text)
    have run : "as".toList ++ ' ' :: rest = path.first.text ++ d :: others :=
      (List.cons.inj same).2.trans spelled
    have reserved := eq_of_wordRuns run (by decide) path.first.isWord (by decide) edge
    exact absurd path.first.notKeyword (by rw [← reserved]; decide)
  rcases List.mem_cons.mp short with rfl | space
  · exact cut
  · obtain rfl := List.mem_singleton.mp space
    change Text.cut? " as ".toList (' ' :: (path.text ++ renameText (some name))) = _
    rw [Text.cut?, if_neg (by rw [notHere]; exact Bool.false_ne_true), cut]
    rfl

private theorem trim_lead {lead text : List Char} (short : lead ∈ [[], [' ']])
    (visible : ∀ c ∈ text, Text.isBlank c = false) :
    Text.trim (lead ++ text) = text := by
  have blank : ∀ c ∈ lead, Text.isBlank c = true := by
    revert lead
    decide
  rw [Text.trim, Text.strip_append blank, Text.strip_of_outside visible]

theorem ModuleItem.importedModule_text (item : ModuleItem) {lead : List Char}
    (short : lead ∈ [[], [' ']]) :
    importedModule (lead ++ item.text) = item.name := by
  obtain ⟨path, rename⟩ := item
  cases rename with
  | none =>
    have absent : Text.occursIn " as ".toList (lead ++ path.text) = false := by
      have once : (lead ++ path.text).count ' ' < 2 := by
        have inLead : ∀ lead ∈ [[], [' ']], lead.count ' ' < 2 := by decide
        rw [List.count_append, List.count_eq_zero_of_not_mem (path.not_mem_text (by decide))]
        exact inLead lead short
      have notInside : ¬" as ".toList <:+: lead ++ path.text := by
        intro inside
        have twice : " as ".toList.count ' ' = 2 := by decide
        have atLeast := inside.sublist.count_le ' '
        omega
      rw [Text.occursIn, (Text.cut?_eq_none_iff (by decide)).mpr notInside]
      rfl
    change importedModule (lead ++ (path.text ++ [])) = path.first.text
    rw [List.append_nil, importedModule, absent, if_neg Bool.false_ne_true,
      trim_lead short path.isBlank, path.takeWhile_text]
  | some name =>
    change importedModule (lead ++ (path.text ++ renameText (some name))) = path.text
    rw [importedModule, importTarget, Text.occursIn, Text.before, path.cut?_text short name]
    exact trim_lead short path.isBlank

namespace MemberItem

variable (item : MemberItem)

private theorem head?_text : ∀ c ∈ item.text.head?, wordOr ['*'] c = true := by
  obtain ⟨c, rest, split, first⟩ := item.exists_first
  simpa [split] using first

private theorem getLast?_text : ∀ c ∈ item.text.getLast?, wordOr ['*'] c = true := by
  have word (name : Identifier) : ∀ c ∈ name.text.getLast?, wordOr ['*'] c = true :=
    fun c last => name.wordOr_text _ c (List.mem_of_getLast? last)
  cases item with
  | named name rename =>
    cases rename with
    | none => simpa [text, renameText] using word name
    | some other =>
      rw [text, renameText, ← List.append_assoc, List.getLast?_append_of_ne_nil _ other.nonempty]
      exact word other
  | star => decide

/-- What the item names without its other name. -/
def target : MemberItem → List Char
  | .named name _ => name.text
  | .star => ['*']

private theorem importTarget_text : importTarget item.text = item.target := by
  have trimmed : Text.trim item.target = item.target := by
    cases item with
    | named name _ => exact name.trim_text
    | star => decide
  have before : Text.before " as ".toList item.text = item.target := by
    cases item with
    | named name rename =>
      have noBlank : ' ' ∉ name.text := name.not_mem (by decide)
      cases rename with
      | none => simpa [text, renameText, target] using Text.before_of_not_mem noBlank "as ".toList
      | some other => exact Text.before_append_needle noBlank _ _
    | star => decide
  rw [importTarget, before, trimmed]

section Piece

variable {lead opening closing : List Char} (blank : ∀ c ∈ lead, Text.isBlank c = true)
  (opens : ∀ c ∈ opening, (c == '(' || c == ')') = true)
    (closes : ∀ c ∈ closing, (c == '(' || c == ')') = true)

include blank opens closes

/-- Nothing but the item is left when blanks and parentheses are taken off. -/
theorem strip_text :
    Text.strip (fun c => c == '(' || c == ')')
      (Text.trim (lead ++ (opening ++ (item.text ++ closing)))) = item.text := by
  have visible {part : List Char} (parentheses : ∀ c ∈ part, (c == '(' || c == ')') = true) :
      ∀ c ∈ part, Text.isBlank c = false := by
    intro c member
    have either : c = '(' ∨ c = ')' := by simpa using parentheses c member
    rcases either with rfl | rfl
    · decide
    · decide
  have trimmed :
      Text.trim (lead ++ (opening ++ (item.text ++ closing))) =
        opening ++ (item.text ++ closing) := by
    rw [Text.trim, Text.strip_append blank]
    refine Text.strip_eq_self ?_ ?_
    · exact Text.head?_append_of (fun c first => visible opens c (List.mem_of_head? first))
        (Text.head?_append_of
        (fun c first => isBlank_of_wordOr (by decide) (item.head?_text c first))
          fun c first => visible closes c (List.mem_of_head? first))
    · exact Text.getLast?_append_of (fun c last => visible opens c (List.mem_of_getLast? last))
        (Text.getLast?_append_of
        (fun c last => isBlank_of_wordOr (by decide) (item.getLast?_text c last))
          fun c last => visible closes c (List.mem_of_getLast? last))
  have outside {c : Char} (belongs : wordOr ['*'] c = true) : (c == '(' || c == ')') = false := by
    have noOpening : c ≠ '(' := by
      rintro rfl
      exact absurd belongs (by decide)
    have noClosing : c ≠ ')' := by
      rintro rfl
      exact absurd belongs (by decide)
    simp [noOpening, noClosing]
  rw [trimmed, Text.strip_append opens, Text.strip_append_right closes]
  exact Text.strip_eq_self (fun c first => outside (item.head?_text c first)) fun c last =>
    outside (item.getLast?_text c last)

private theorem importedMember_text (source : ModuleName) :
    importedMember source.text (lead ++ (opening ++ (item.text ++ closing))) =
      item.name source := by
  rw [importedMember, item.strip_text blank opens closes, item.importTarget_text]
  cases item with
  | named name rename =>
    have different : name.text ≠ ['*'] := by
      intro same
      exact name.not_mem (c := '*') (by decide) (by rw [same]; exact List.mem_singleton_self _)
    exact if_neg different
  | star => rfl

end Piece

end MemberItem

private theorem parenthesis_eq {c d : Char} {present : Bool} (member : d ∈ parenthesis c present) :
    d = c := by
  cases present with
  | true => exact List.mem_singleton.mp member
  | false => cases member

private theorem map_importedModule (list : ItemList ModuleItem) :
    ((list.text ModuleItem.text).splitOn ',').map importedModule =
      list.items.map ModuleItem.name := by
  have noComma (item : ModuleItem) : ',' ∉ item.text :=
    fun member => absurd (item.inItem ',' member) (by decide)
  have read (lead : List Char) (short : lead ∈ [[], [' ']]) (item : ModuleItem) :
      ∀ finish ∈ [[], []], importedModule (lead ++ (item.text ++ finish)) = item.name := by
    simpa using item.importedModule_text short
  have names :=
    map_splitOn_text noComma List.not_mem_nil (read [' '] (by simp)) list List.not_mem_nil
      (read [] (by simp))
  rwa [List.nil_append, List.append_nil] at names

private theorem map_importedMember (source : ModuleName) (list : ItemList MemberItem)
    (inParentheses : Bool) :
    ((memberText list inParentheses).splitOn ',').map (importedMember source.text) =
      list.items.map (MemberItem.name source) := by
  have noComma (item : MemberItem) : ',' ∉ item.text :=
    fun member => absurd (item.inItem ',' member) (by decide)
  have noCommaIn {c : Char} (different : ',' ≠ c) : ',' ∉ parenthesis c inParentheses :=
    fun member => different (parenthesis_eq member)
  have opens : ∀ c ∈ parenthesis '(' inParentheses, (c == '(' || c == ')') = true :=
    fun c member => by simp [parenthesis_eq member]
  have closes :
      ∀ finish ∈ [[], parenthesis ')' inParentheses], ∀ c ∈ finish,
        (c == '(' || c == ')') = true := by
    refine List.forall_mem_cons.mpr
      ⟨List.forall_mem_nil _, List.forall_mem_singleton.mpr fun c member => ?_⟩
    simp [parenthesis_eq member]
  have read (item : MemberItem) (finish : List Char)
    (member : finish ∈ [[], parenthesis ')' inParentheses]) :
      importedMember source.text ([' '] ++ ([] ++ (item.text ++ finish))) = item.name source :=
    item.importedMember_text Text.isBlank_space (List.forall_mem_nil _)
      (closes finish member) source
  have readFirst (item : MemberItem) (finish : List Char)
    (member : finish ∈ [[], parenthesis ')' inParentheses]) :
      importedMember source.text ([] ++ (parenthesis '(' inParentheses ++ (item.text ++ finish))) =
        item.name source :=
    item.importedMember_text (List.forall_mem_nil _) opens (closes finish member) source
  exact map_splitOn_text noComma (noCommaIn (by decide)) read list (noCommaIn (by decide)) readFirst

theorem DottedPath.text_ne_nil (path : DottedPath) : path.text ≠ [] :=
  List.append_ne_nil_of_left_ne_nil path.first.nonempty _

/-- Every name of a line is made of dots and word characters. -/
theorem ImportLine.inName (line : ImportLine) :
    ∀ name ∈ line.names, name ≠ [] ∧ ∀ c ∈ name, wordOr ['.'] c = true := by
  intro name member
  cases line with
  | modules list =>
    obtain ⟨⟨path, rename⟩, _, rfl⟩ := List.mem_map.mp member
    cases rename with
    | none => exact ⟨path.first.nonempty, path.first.wordOr_text _⟩
    | some other => exact ⟨path.text_ne_nil, path.inPath⟩
  | members source list inParentheses =>
    obtain ⟨item, _, rfl⟩ := List.mem_map.mp member
    cases item with
    | named name rename => exact ⟨name.nonempty, name.wordOr_text _⟩
    | star => exact ⟨source.nonempty, source.inName⟩

/-- What is declared for an imported name. -/
def importDeclaration (name : List Char) : Declaration where
  name := String.ofList name
  kind := .imported
  scope := "global"
  dataType := some "module"

theorem ImportLine.filterMap_names (line : ImportLine) :
    (line.names.filterMap fun name => Declaration.of? globalScope .imported name "module".toList) =
      line.names.map importDeclaration := by
  rw [← List.filterMap_eq_map]
  refine List.filterMap_congr fun name member => ?_
  obtain ⟨nonempty, inName⟩ := line.inName name member
  have clean :=
    cleanName?_of_clean nonempty (fun c inside => isBlank_of_wordOr (by decide) (inName c inside))
    fun c inside => isQuote_of_wordOr (by decide) (inName c inside)
  rw [Declaration.of?, clean]
  rfl

theorem ImportLine.imports_effect? (line : ImportLine) (context : Context) :
    imports.effect? line.captures line.text context =
      some (Effect.ofDeclarations (line.names.map importDeclaration)) := by
  rw [← line.filterMap_names]
  cases line with
  | modules list =>
    rw [names, ← map_importedModule]
    rfl
  | members source list inParentheses =>
    rw [names, ← map_importedMember source list inParentheses]
    rfl

theorem ImportLine.claims_names (line : ImportLine) :
    (Effect.ofDeclarations (line.names.map importDeclaration)).claims = true := by
  cases line with
  | modules list => rfl
  | members source list inParentheses => rfl

/-!
## Calls
-/

theorem ItemList.not_mem_text {α : Type} {itemText : α → List Char}
    (each : ∀ item, ∀ c ∈ itemText item, inItem c = true) (list : ItemList α) :
    '(' ∉ list.text itemText :=
  fun member => absurd (list.inList each '(' member) (by decide)

/-- The only parenthesis that opens stands right behind the keyword and a blank. -/
theorem ImportLine.exists_opening (line : ImportLine) {start finish : List Char}
    (split : line.text = start ++ '(' :: finish) :
    ∃ head, start = head ++ ' ' :: ("import".toList ++ [' ']) := by
  have opens : '(' ∈ line.text := by
    rw [split]
    exact List.mem_append_right _ List.mem_cons_self
  cases line with
  | modules list =>
    rcases List.mem_append.mp opens with inKeyword | inList
    · exact absurd inKeyword (by decide)
    · exact absurd inList (list.not_mem_text ModuleItem.inItem)
  | members source list inParentheses =>
    have absent : '(' ∉ list.text MemberItem.text := list.not_mem_text MemberItem.inItem
    have front : '(' ∉ ("from ".toList ++ source.text) ++ " import ".toList := by
      refine List.not_mem_append (List.not_mem_append (by decide) fun member => ?_) (by decide)
      exact absurd (source.inName '(' member) (by decide)
    have spelled :
        ("from ".toList ++ source.text) ++ " import ".toList ++ memberText list inParentheses =
          start ++ '(' :: finish :=
      ((List.append_assoc _ _ _).trans (List.append_assoc _ _ _)).trans split
    cases inParentheses with
    | false =>
      rw [memberText, parenthesis, parenthesis, List.nil_append, List.append_nil] at spelled
      have present : '(' ∈ start ++ '(' :: finish := List.mem_append_right _ List.mem_cons_self
      rw [← spelled] at present
      exact absurd present (List.not_mem_append front absent)
    | true =>
      have back : '(' ∉ list.text MemberItem.text ++ [')'] := List.not_mem_append absent (by decide)
      exact ⟨_, ((List.append_cons_inj_of_notMem front back).mp spelled).1.symm⟩

/-- The word in front of a blank after the keyword is the keyword. -/
theorem eq_keyword {before gap head : List Char} (name : Word)
    (blank : ∀ c ∈ gap, Text.isBlank c = true) (edge : ∀ d ∈ before.head?, Text.isWord d = false)
    (same : before.reverse ++ (name.text ++ gap) = head ++ ' ' :: ("import".toList ++ [' '])) :
    name.text = "import".toList := by
  -- Read from the end, where the blanks stop at the keyword.
  have backwards :
      gap.reverse ++ (name.text.reverse ++ before) =
        [' '] ++ ("import".toList.reverse ++ ' ' :: head.reverse) := by
    simpa using congrArg List.reverse same
  have visible : ∀ c ∈ (name.text.reverse ++ before).head?, Text.isBlank c = false := by
    have nonempty : name.text.reverse ≠ [] := by simpa using name.nonempty
    obtain ⟨c, rest, split⟩ := List.exists_cons_of_ne_nil nonempty
    rw [split]
    exact stops_before
      (name.isBlank c (List.mem_reverse.mp (by rw [split]; exact List.mem_cons_self))) _
  have word : name.text.reverse ++ before = "import".toList.reverse ++ ' ' :: head.reverse := by
    have dropped := congrArg (List.dropWhile Text.isBlank) backwards
    have stops :
        ∀ c ∈ ("import".toList.reverse ++ ' ' :: head.reverse).head?, Text.isBlank c = false :=
      stops_before (c := 't') (by decide) _
    rwa [List.dropWhile_append_of_pos (by simpa using blank), Text.dropWhile_of_head? visible,
      List.dropWhile_append_of_pos (by decide), Text.dropWhile_of_head? stops] at dropped
  have isWord : ∀ c ∈ name.text.reverse, Text.isWord c = true :=
    fun c member => name.isWord c (List.mem_reverse.mp member)
  cases before with
  | nil =>
    have inWord : ' ' ∈ name.text.reverse := by
      rw [← List.append_nil name.text.reverse, word]
      simp
    exact absurd (isWord ' ' inWord) (by decide)
  | cons d before =>
    have run := eq_of_wordRuns word isWord (by decide) (edge d rfl) (by decide)
    exact List.reverse_inj.mp run

private theorem builtinCall_declines (line : ImportLine) {found : Match}
    (isMatch : builtinCall.pattern.IsMatch line.text found) (context : Context) :
    builtinCall.effect? found.captures line.text context = none := by
  obtain ⟨before, _, rest, _, split,
    ⟨_, _, _, rfl, ⟨_, gap, _, rfl, ⟨_, name, _, rfl, ⟨⟨rfl, edge⟩, rfl⟩, ⟨_, readName, rfl⟩⟩,
      ⟨blank, rfl⟩⟩, ⟨rfl, rfl⟩⟩, rfl⟩ := isMatch
  obtain ⟨nonempty, isWord, rfl⟩ := readName.of_many1
  have opening : line.text = (before.reverse ++ (name ++ gap)) ++ '(' :: rest := by
    simpa using split
  obtain ⟨head, same⟩ := line.exists_opening opening
  have keyword : name = "import".toList :=
    eq_keyword ⟨name, nonempty, isWord⟩ blank
      (Word.isWord_before ⟨name, nonempty, isWord⟩ (by simpa using edge)) same
  subst keyword
  rfl

end Symtab.Rules.Python

namespace Symtab

/-- The first rule of the cascade that does not pass a line on claims it, and the checks turn all
that they find down. -/
theorem Context.step_of_declined {language : Language} {number : Nat} {line : List Char}
    {context : Context} (earlier : List Rule)
    (rule : Rule) (later : List Rule) (cascade : language.rules.cascade = earlier ++ rule :: later)
    (unmatched : ∀ other ∈ earlier, other.pattern.find? line = none)
    (declined : ∀ check ∈ language.rules.checks, ∀ found,
      check.pattern.IsMatch line found → ∀ context,
      check.effect? found.captures line context = none) {kept : Captures}
    (finds : rule.pattern.Finds line kept) {effect : Effect}
      (outcome : rule.effect? kept line context = some effect)
    (claims : effect.claims = true) (noClosing : '}' ∉ line) :
    context.step language ⟨number, line⟩ = context.apply language number effect := by
  have cascaded :
      context.cascaded language number line language.rules.cascade =
        context.apply language number effect := by
    rw [cascade]
    exact cascaded_of_claims (fun other member => tryLine_of_find?_eq_none (unmatched other member))
      finds outcome claims
  have read :
      context.read language.rules language number line = context.apply language number effect := by
    refine foldl_checked_preserves (· = context.apply language number effect)
      (fun check member before found isMatch same => ?_)
      cascaded
    simp only [Rule.tryMatch, declined check member found isMatch before]
    exact same
  simp only [step, read, if_neg (ne_closingBrace noClosing)]

namespace Rules.Python

/-- What is reported of an imported name. -/
def importSymbol (number : Nat) (name : List Char) : Symbol where
  name := String.ofList name
  kind := .imported
  scope := "global"
  line := number
  dataType := some "module"
  language := .python

/-- A line of imports adds one symbol for each item, in order, and changes nothing else, wherever it
stands. All are modules of the outermost scope: the first word of a path without another name, all
of a path with one, the word itself where it is taken from a module, and the module in place of a
star. -/
theorem import_items_reported (context : Context) (number : Nat) (line : ImportLine) :
    context.step .python ⟨number, line.text⟩ =
      context.adding (line.names.map (importSymbol number)) := by
  have declined :
      ∀ check ∈ Language.python.rules.checks, ∀ found,
        check.pattern.IsMatch line.text found → ∀ context,
      check.effect? found.captures line.text context = none :=
    List.forall_mem_singleton.mpr fun _ isMatch context => builtinCall_declines line isMatch context
  have stepped : context.step .python ⟨number, line.text⟩ =
      context.apply .python number (Effect.ofDeclarations (line.names.map importDeclaration)) :=
    Context.step_of_declined [function, classes, selfProperty, typedVariable, plainVariables]
      imports [] rfl line.find?_eq_none
      declined line.imports_finds (line.imports_effect? context) line.claims_names
        (line.not_mem_text (by decide))
  rw [stepped, Effect.ofDeclarations, Context.apply_declarations, List.map_map]
  rfl

-- The word in front of the parenthesis is called nothing, and a star is named after the module.
example :
    let b : Identifier := ⟨⟨['b'], by decide, by decide⟩, by decide⟩
    let line :=
      ImportLine.members ⟨".a".toList, by decide, by decide, by decide⟩
        ⟨.named b (some b), [.star]⟩ true
    line.text = "from .a import (b as b, *)".toList ∧ line.names = [['b'], ".a".toList] := by
  decide

end Rules.Python

end Symtab
