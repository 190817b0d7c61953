import Mathlib.Data.List.Basic
import Symtab.Proofs.Excerpt

/-!
# Import trees

Trees of imports as they are written, and the names that are read off them. The names are found
without the tree: the text between the outermost braces is cut at every comma, and each piece is rid
of the braces around it and of all that stands before them. So one name is found for each leaf of
the tree, in order. It is the right one wherever a leaf is the path of an item. A leaf that stands
for a module is named after the module in front of the outermost braces, however deep it sits, and a
path that ends in a star inside of braces is named after the star.
-/

set_option autoImplicit false

namespace Symtab.Rules.Rust

/-!
## Trees
-/

/-- The path of an item: any path but the single word that stands for a module. -/
structure ItemPath extends WordPath where
  isItem : leading ≠ [] ∨ last.text ≠ "self".toList

/-- What an import brings in. -/
inductive ImportTree where
  /-- `a::b` or `a::b as c` -/
  | item (path : ItemPath) (rename : Option Word)
  /-- `a::b::*` -/
  | everything (path : WordPath)
  /-- `self` or `self as a` -/
  | module (rename : Option Word)
  /-- `*` -/
  | star
  /-- `a::b::` and some trees in braces, or only the trees in braces -/
  | group (path : Option WordPath) (trees : List ImportTree)

/-- The other name that an item is given. -/
def renameText : Option Word → List Char
  | none => []
  | some name => " as ".toList ++ name.text

/-- What stands in front of the braces of a group. -/
def groupStart : Option WordPath → List Char
  | none => []
  | some path => path.text ++ "::".toList

mutual

/-- A tree as it is written. -/
def ImportTree.text : ImportTree → List Char
  | .item path rename => path.text ++ renameText rename
  | .everything path => path.text ++ "::*".toList
  | .module rename => "self".toList ++ renameText rename
  | .star => ['*']
  | .group path trees => groupStart path ++ '{' :: (ImportTree.allText trees ++ ['}'])

/-- Trees with commas between them. -/
def ImportTree.allText : List ImportTree → List Char
  | [] => []
  | [tree] => tree.text
  | tree :: next :: rest => tree.text ++ ',' :: ' ' :: ImportTree.allText (next :: rest)

end

/-- A leaf of a tree with what its name depends on. -/
inductive Leaf where
  /-- An item with the last word of its path, whatever other name it is given. -/
  | item (name : Word)
  /-- All of a module, with the last word of its path and whether it stands in braces. -/
  | everything (owner : Word) (inBraces : Bool)
  /-- The module around the leaf, written `self`, or all of it, written as a star; there may be none
  around it. -/
  | module (around : Option Word)

/-- The name that a leaf is meant to bring in: that of the item, or that of the module. -/
def Leaf.name : Leaf → Option Word
  | .item name => name
  | .everything owner _ => owner
  | .module around => around

mutual

/-- The leaves of a tree from left to right, with the last word in front of the braces around it. -/
def ImportTree.leaves (around : Option Word) (inBraces : Bool) : ImportTree → List Leaf
  | .item path _ => [.item path.last]
  | .everything path => [.everything path.last inBraces]
  | .module _ => [.module around]
  | .star => [.module around]
  | .group path trees => ImportTree.allLeaves ((path.map WordPath.last).or around) trees

def ImportTree.allLeaves (around : Option Word) : List ImportTree → List Leaf
  | [] => []
  | tree :: rest => tree.leaves around true ++ ImportTree.allLeaves around rest

end

namespace ImportTree

/-- The names that a tree is meant to bring in. -/
def names (tree : ImportTree) : List (List Char) :=
  (tree.leaves none false).filterMap fun leaf => leaf.name.map Word.text

/-- The path in front of the outermost braces. -/
def outermost? : ImportTree → Option WordPath
  | .group path _ => path
  | .item _ _ | .everything _ | .module _ | .star => none

end ImportTree

/-- The name that is found for a leaf, where the path in front of the outermost braces is given. -/
def Leaf.found (outermost : Option WordPath) : Leaf → Option (List Char)
  | .item name => some name.text
  | .everything owner false => some owner.text
  | .everything _ true => some ['*']
  | .module _ => outermost.map fun path => path.last.text

/-- The name that is found for a leaf is the one that it is meant to bring in. -/
def Leaf.NamedRight (outermost : Option WordPath) : Leaf → Prop
  | .item _ => True
  | .everything _ inBraces => inBraces = false
  | .module around => around = outermost.map WordPath.last

/-!
## Pieces
-/

/-- The name that is found in a piece between commas. -/
def pieceName (path piece : List Char) : List Char :=
  itemName path (bareItem piece)

/-- The names that are found in a text with commas. -/
def pieceNames (path text : List Char) : List (List Char) :=
  ((text.splitOn ',').map (pieceName path)).filter fun name => !name.isEmpty

private theorem itemName_nil (path : List Char) : itemName path [] = [] := rfl

/-- A piece that is empty without its braces has no name, so it need not be left out before. -/
theorem filter_map_filter {name : List Char → List Char} (nameless : name [] = [])
    (items : List (List Char)) :
    ((items.filter fun item => !item.isEmpty).map name).filter (fun name => !name.isEmpty) =
      (items.map name).filter fun name => !name.isEmpty := by
  induction items with
  | nil => rfl
  | cons item items ih =>
    cases item with
    | nil => simpa [nameless] using ih
    | cons c rest =>
      simp only [List.filter_cons, List.isEmpty_cons, Bool.not_false, if_true, List.map_cons, ih]

private theorem importedNames_eq (tree : List Char) :
    importedNames tree = pieceNames (splitTree tree).1 (splitTree tree).2 := by
  rw [importedNames]
  obtain ⟨path, items⟩ := splitTree tree
  have composed : itemName path ∘ bareItem = pieceName path :=
    funext fun piece => by rw [Function.comp_apply, pieceName]
  dsimp only
  rw [pieceNames, filter_map_filter (itemName_nil path), List.map_map, composed]

private theorem pieceNames_append (path first second : List Char) :
    pieceNames path (first ++ ',' :: second) = pieceNames path first ++ pieceNames path second := by
  rw [pieceNames, List.splitOn_append_cons_self, List.map_append, List.filter_append]
  rfl

private theorem pieceNames_of_not_mem {text : List Char} (oneItem : ',' ∉ text) (path : List Char) :
    pieceNames path text = if pieceName path text = [] then [] else [pieceName path text] := by
  rw [pieceNames, List.splitOn_eq_singleton oneItem, List.map_singleton]
  by_cases empty : pieceName path text = []
  · simp [empty]
  · simp [empty]

/-- What can stand before a leaf in its piece: the blank after a comma, and the starts of groups. -/
structure IsOpening (opening : List Char) : Prop where
  split : ∃ gap starts, opening = gap ++ starts ∧ (gap = [] ∨ gap = [' ']) ∧
    (∀ c ∈ starts, Text.isBlank c = false ∧ c ≠ ',') ∧
      (starts = [] ∨ ∃ outer, starts = outer ++ ['{'])

private theorem isOpening_nil : IsOpening [] :=
  ⟨[], [], rfl, .inl rfl, by simp, .inl rfl⟩

private theorem isOpening_space : IsOpening [' '] :=
  ⟨[' '], [], rfl, .inr rfl, by simp, .inl rfl⟩

private theorem groupStart_chars (path : Option WordPath) :
    ∀ c ∈ groupStart path, Text.isWord c = true ∨ c = ':' := by
  intro c member
  cases path with
  | none => cases member
  | some path =>
    rcases List.mem_append.mp member with inPath | inColons
    · exact path.isWord_or_colon c inPath
    · exact .inr (by simpa using inColons)

theorem IsOpening.group {opening : List Char} (outer : IsOpening opening) (path : Option WordPath) :
    IsOpening (opening ++ (groupStart path ++ ['{'])) := by
  obtain ⟨gap, starts, rfl, isGap, plain, -⟩ := outer.split
  refine ⟨gap, starts ++ (groupStart path ++ ['{']), by rw [List.append_assoc], isGap, ?_, .inr ?_⟩
  · intro c member
    rcases List.mem_append.mp member with inStarts | inStart
    · exact plain c inStarts
    · rcases List.mem_append.mp inStart with inPath | isBrace
      · rcases groupStart_chars path c inPath with word | rfl
        · exact ⟨Text.isBlank_eq_false_of_isWord word, by rintro rfl; exact absurd word (by decide)⟩
        · decide
      · rw [List.mem_singleton.mp isBrace]
        decide
  · exact ⟨starts ++ groupStart path, (List.append_assoc ..).symm⟩

/-- Characters that can stand in a path or a star. -/
def InTarget (c : Char) : Prop :=
  Text.isBlank c = false ∧ c ∉ ['{', '}', ',']

private theorem inTarget_path (path : WordPath) : ∀ c ∈ path.text, InTarget c := by
  intro c member
  refine ⟨path.isBlank c member, fun listed => ?_⟩
  have outside : ∀ d ∈ ['{', '}', ','], Text.isWord d = false ∧ d ≠ ':' := by decide
  exact path.not_mem_text (outside c listed).1 (outside c listed).2 member

private theorem before_renameText {target : List Char}
    (plain : ∀ c ∈ target, Text.isBlank c = false) (rename : Option Word) :
    Text.before " as ".toList (target ++ renameText rename) = target := by
  have noSpace : ' ' ∉ target := fun member => absurd (plain ' ' member) (by decide)
  cases rename with
  | none =>
    rw [renameText, List.append_nil]
    exact Text.before_of_not_mem noSpace _
  | some name => exact Text.before_append_needle noSpace _ _

private theorem not_mem_renameText {c : Char} (outside : Text.isWord c = false) (notBlank : c ≠ ' ')
    (rename : Option Word) :
    c ∉ renameText rename := by
  cases rename with
  | none => exact List.not_mem_nil
  | some name =>
    intro member
    rcases List.mem_append.mp member with fixed | inName
    · rcases (by simpa using fixed : c = ' ' ∨ c = 'a' ∨ c = 's' ∨
        c = ' ') with rfl | rfl | rfl | rfl
      · exact notBlank rfl
      · exact absurd outside (by decide)
      · exact absurd outside (by decide)
      · exact notBlank rfl
    · exact name.not_mem outside inName

/-- A text that neither starts nor ends with a blank. -/
structure Trimmed (text : List Char) : Prop where
  first : ∀ c ∈ text.head?, Text.isBlank c = false
  last : ∀ c ∈ text.getLast?, Text.isBlank c = false

private theorem trimmed_of_visible {text : List Char}
    (visible : ∀ c ∈ text, Text.isBlank c = false) : Trimmed text :=
  ⟨fun c first => visible c (List.mem_of_head? first), fun c last =>
    visible c (List.mem_of_getLast? last)⟩

theorem Trimmed.append {start finish : List Char} (first : Trimmed start)
    (second : Trimmed finish) : Trimmed (start ++ finish) :=
  ⟨Text.head?_append_of first.first second.first, Text.getLast?_append_of first.last second.last⟩

theorem Trimmed.trim_eq {text : List Char} (trimmed : Trimmed text) : Text.trim text = text :=
  Text.strip_eq_self trimmed.first trimmed.last

/-- The braces that close groups. -/
def closings (depth : Nat) : List Char :=
  List.replicate depth '}'

@[simp] theorem closings_zero : closings 0 = [] := rfl

private theorem closings_succ (depth : Nat) : closings (depth + 1) = '}' :: closings depth := rfl

private theorem eq_of_mem_closings {depth : Nat} {c : Char} (member : c ∈ closings depth) :
    c = '}' :=
  List.eq_of_mem_replicate member

private theorem trimmed_closings (depth : Nat) : Trimmed (closings depth) :=
  trimmed_of_visible fun c member => by rw [eq_of_mem_closings member]; decide

section Bare

variable {starts leaf : List Char} (ends : starts = [] ∨ ∃ outer, starts = outer ++ ['{'])

include ends in
/-- Without the braces that they begin with, the starts of groups still end with a brace. -/
theorem dropWhile_starts :
    starts.dropWhile (· == '{') = [] ∨ ∃ outer, starts.dropWhile (· == '{') = outer ++ ['{'] := by
  rcases ends with rfl | ⟨outer, rfl⟩
  · exact .inl rfl
  · rw [List.dropWhile_append]
    split
    · exact .inl rfl
    · exact .inr ⟨_, rfl⟩

private theorem dropWhile_piece (first : ∀ c ∈ leaf.head?, c ≠ '{') (depth : Nat) :
    (starts ++ (leaf ++ closings depth)).dropWhile (· == '{') =
      starts.dropWhile (· == '{') ++ (leaf ++ closings depth) := by
  refine Text.dropWhile_append_of_head?
    (Text.head?_append_of (fun c start => ?_) fun c start => ?_) starts
  · simpa using first c start
  · rw [eq_of_mem_closings (List.mem_of_head? start)]
    decide

include ends in
private theorem stripEnd_piece (last : ∀ c ∈ leaf.getLast?, c ≠ '}') (depth : Nat) :
    Text.stripEnd (· == '}') (starts ++ (leaf ++ closings depth)) = starts ++ leaf := by
  rw [← List.append_assoc]
  refine Text.stripEnd_append (Text.getLast?_append_of (fun c final => ?_) fun c final => ?_)
    fun c member => ?_
  · rcases ends with rfl | ⟨outer, rfl⟩
    · cases final
    · rw [List.getLast?_concat] at final
      cases final
      rfl
  · simpa using last c final
  · rw [eq_of_mem_closings member]
    rfl

end Bare

/-- Without the blanks and braces around it, a piece is a leaf behind the starts of groups. -/
theorem exists_bareItem {opening leaf : List Char} (isOpening : IsOpening opening)
    (first : ∀ c ∈ leaf.head?, Text.isBlank c = false ∧ c ≠ '{')
    (last : ∀ c ∈ leaf.getLast?, Text.isBlank c = false ∧ c ≠ '}') (depth : Nat) :
    ∃ starts, bareItem (opening ++ (leaf ++ closings depth)) = starts ++ leaf ∧
      (∀ c ∈ starts, Text.isBlank c = false) ∧
      (starts = [] ∨ ∃ outer, starts = outer ++ ['{']) := by
  obtain ⟨gap, starts, rfl, isGap, plain, ends⟩ := isOpening.split
  have blankGap : ∀ c ∈ gap, Text.isBlank c = true := by
    rcases isGap with rfl | rfl
    · exact fun c member => absurd member List.not_mem_nil
    · decide
  have visible : ∀ c ∈ starts.dropWhile (· == '{'), Text.isBlank c = false :=
    fun c member => (plain c ((List.dropWhile_suffix _).subset member)).1
  have trimmed : Trimmed leaf := ⟨fun c start => (first c start).1, fun c final => (last c final).1⟩
  have whole : Trimmed (starts ++ (leaf ++ closings depth)) :=
    (trimmed_of_visible fun c member => (plain c member).1).append
      (trimmed.append (trimmed_closings depth))
  have ungapped :
      Text.trim (gap ++ starts ++ (leaf ++ closings depth)) =
        starts ++ (leaf ++ closings depth) := by
    rw [List.append_assoc]
    exact (Text.strip_append blankGap _).trans whole.trim_eq
  refine ⟨starts.dropWhile (· == '{'), ?_, visible, dropWhile_starts ends⟩
  rw [bareItem, ungapped, dropWhile_piece fun c start => (first c start).2,
    stripEnd_piece (dropWhile_starts ends) fun c final => (last c final).2]
  exact ((trimmed_of_visible visible).append trimmed).trim_eq

/-- The name of what an item is aimed at. -/
def targetName (path target : List Char) : List Char :=
  if target = "self".toList || target = ['*'] then Text.lastSegment ':' path
  else Text.lastSegment ':' target

section Piece

variable {opening target : List Char} (isOpening : IsOpening opening)
    (inTarget : ∀ c ∈ target, InTarget c)
  (rename : Option Word) (present : target = [] → rename = none) (depth : Nat)

include inTarget

private theorem last_of_leaf :
    ∀ c ∈ (target ++ renameText rename).getLast?, Text.isBlank c = false ∧ c ≠ '}' := by
  intro c last
  cases rename with
  | none =>
    rw [renameText, List.append_nil] at last
    have plain := inTarget c (List.mem_of_getLast? last)
    exact ⟨plain.1, fun same => plain.2 (by simp [same])⟩
  | some name =>
    rw [renameText, ← List.append_assoc, List.getLast?_append_of_ne_nil _ name.nonempty] at last
    have word := name.isWord c (List.mem_of_getLast? last)
    exact ⟨Text.isBlank_eq_false_of_isWord word, by rintro rfl; exact absurd word (by decide)⟩

include isOpening in
private theorem not_mem_leaf :
    ',' ∉ opening ++ (target ++ renameText rename ++ closings depth) := by
  obtain ⟨gap, starts, split, isGap, plain, -⟩ := isOpening.split
  simp only [List.mem_append, not_or]
  refine ⟨?_, ⟨fun member => (inTarget ',' member).2 (by simp),
    not_mem_renameText (by decide) (by decide) rename⟩, ?_⟩
  · rw [split]
    rcases isGap with rfl | rfl
    · exact fun member => (plain ',' member).2 rfl
    · intro member
      rcases List.mem_cons.mp member with isBlank | inStarts
      · exact absurd isBlank (by decide)
      · exact (plain ',' inStarts).2 rfl
  · exact fun member => absurd (eq_of_mem_closings member) (by decide)

include present

private theorem first_of_leaf :
    ∀ c ∈ (target ++ renameText rename).head?, Text.isBlank c = false ∧ c ≠ '{' := by
  intro c first
  cases target with
  | nil =>
    rw [present rfl] at first
    cases first
  | cons d others =>
    cases first
    have plain := inTarget c List.mem_cons_self
    exact ⟨plain.1, fun same => plain.2 (by simp [same])⟩

include isOpening

private theorem pieceName_leaf (path : List Char) :
    pieceName path (opening ++ (target ++ renameText rename ++ closings depth)) =
      targetName path target := by
  obtain ⟨starts, bare, notBlank, ends⟩ :=
    exists_bareItem isOpening (first_of_leaf inTarget rename present)
      (last_of_leaf inTarget rename) depth
  have plain : ∀ c ∈ starts ++ target, Text.isBlank c = false := by
    intro c member
    rcases List.mem_append.mp member with inStarts | inside
    · exact notBlank c inStarts
    · exact (inTarget c inside).1
  have unnamed :
      Text.before " as ".toList (starts ++ (target ++ renameText rename)) = starts ++ target := by
    rw [← List.append_assoc, before_renameText plain]
  have noBrace : '{' ∉ target := fun member => (inTarget '{' member).2 (by simp)
  have inner : Text.afterLast '{' (starts ++ target) = target := by
    rcases ends with rfl | ⟨outer, rfl⟩
    · exact Text.afterLast_of_not_mem noBrace
    · rw [List.append_assoc]
      exact Text.afterLast_append_cons outer noBrace
  have trimmed : Text.trim (starts ++ target) = starts ++ target := Text.strip_of_outside plain
  have whole : Text.trim target = target :=
    Text.strip_of_outside fun c member => (inTarget c member).1
  rw [pieceName, bare, itemName, unnamed, trimmed, inner, whole, targetName]

end Piece

/-!
## One name for each leaf
-/

/-- What is left of the start of a group without the colons at its end. -/
def pathText : Option WordPath → List Char
  | none => []
  | some path => path.text

private theorem stripEnd_groupStart (path : Option WordPath) :
    Text.stripEnd (· == ':') (groupStart path) = pathText path := by
  cases path with
  | none => rfl
  | some path =>
    refine Text.stripEnd_append (fun c last => ?_) (by decide)
    have word := path.isWord_getLast? c last
    cases isColon : c == ':' with
    | false => rfl
    | true =>
      rw [eq_of_beq isColon] at word
      exact absurd word (by decide)

theorem lastSegment_pathText (path : Option WordPath) :
    Text.lastSegment ':' (pathText path) = (path.map fun path => path.last.text).getD [] := by
  cases path with
  | none => rfl
  | some path => exact path.lastSegment_text

private theorem targetName_of_ne {target : List Char} (notSelf : target ≠ "self".toList)
    (notStar : target ≠ ['*']) (outer : List Char) :
    targetName outer target = Text.lastSegment ':' target := by
  rw [targetName, if_neg]
  simp only [Bool.or_eq_true, decide_eq_true_eq, not_or]
  exact ⟨notSelf, notStar⟩

private theorem targetName_item (outer : List Char) (path : ItemPath) :
    targetName outer path.text = path.last.text := by
  have notSelf : path.text ≠ "self".toList := by
    obtain ⟨⟨leading, last⟩, isItem⟩ := path
    cases leading with
    | nil => exact isItem.resolve_left fun leads => leads rfl
    | cons segment leading =>
      intro same
      have colon : ':' ∈ "self".toList := by
        rw [← same, WordPath.text_cons]
        simp
      exact absurd colon (by decide)
  have notStar : path.text ≠ ['*'] := by
    intro same
    have noStar : '*' ∉ path.text := path.not_mem_text (by decide) (by decide)
    rw [same] at noStar
    exact noStar (List.mem_singleton_self '*')
  rw [targetName_of_ne notSelf notStar, path.lastSegment_text]

private theorem targetName_everything (outer : List Char) (path : WordPath) :
    targetName outer (path.text ++ "::*".toList) = ['*'] := by
  have longer : ∀ other : List Char, ':' ∉ other → path.text ++ "::*".toList ≠ other := by
    rintro other absent rfl
    exact absent (by simp)
  have segment : Text.lastSegment ':' (path.text ++ "::*".toList) = ['*'] := by
    have split : path.text ++ "::*".toList = path.text ++ [':'] ++ ':' :: ['*'] := by simp
    rw [Text.lastSegment, split, Text.afterLast_append_cons _ (by decide)]
    rfl
  rw [targetName_of_ne (longer _ (by decide)) (longer _ (by decide)), segment]

private theorem found_ne_nil (outermost : Option WordPath) (leaf : Leaf) :
    ∀ name ∈ leaf.found outermost, name ≠ [] := by
  intro name found
  cases leaf with
  | item word =>
    cases found
    exact word.nonempty
  | everything owner inBraces =>
    cases inBraces with
    | false =>
      cases found
      exact owner.nonempty
    | true =>
      cases found
      exact List.cons_ne_nil _ _
  | module around =>
    obtain ⟨path, -, rfl⟩ := Option.map_eq_some_iff.mp found
    exact path.last.nonempty

section Trees

variable (outermost : Option WordPath)

/-- A leaf in its piece is found by the name of what it is aimed at. -/
theorem pieceNames_leaf {opening target : List Char} (isOpening : IsOpening opening)
    (inTarget : ∀ c ∈ target, InTarget c) (rename : Option Word)
    (present : target = [] → rename = none) {found : Option (List Char)}
    (named : targetName (pathText outermost) target = found.getD [])
    (nonempty : ∀ name ∈ found, name ≠ []) (depth : Nat) :
    pieceNames (pathText outermost) (opening ++ (target ++ renameText rename ++ closings depth)) =
      found.toList := by
  rw [pieceNames_of_not_mem (not_mem_leaf isOpening inTarget rename depth),
    pieceName_leaf isOpening inTarget rename present, named]
  cases found with
  | none => rfl
  | some name => simp [nonempty name rfl]

private theorem pieceNames_empty {opening : List Char} (isOpening : IsOpening opening)
    (depth : Nat) :
    pieceNames (pathText outermost) (opening ++ closings depth) = [] := by
  have inTarget : ∀ c ∈ ([] : List Char), InTarget c :=
    fun c member => absurd member List.not_mem_nil
  have nothing : targetName (pathText outermost) [] = none.getD [] := rfl
  exact pieceNames_leaf outermost isOpening inTarget none (fun _ => rfl) nothing
    (fun name member => nomatch member) depth

private theorem pieceNames_item {opening : List Char} (isOpening : IsOpening opening)
    (path : ItemPath) (rename : Option Word) (depth : Nat) :
    pieceNames (pathText outermost)
      (opening ++ (path.text ++ renameText rename ++ closings depth)) = [path.last.text] :=
  pieceNames_leaf outermost isOpening (inTarget_path path.toWordPath) rename
    (fun empty => absurd empty path.text_ne_nil)
    (targetName_item _ path) (found_ne_nil outermost (.item path.last)) depth

private theorem pieceNames_module {opening target : List Char} (isOpening : IsOpening opening)
    (isModule : target = "self".toList ∨ target = ['*']) (rename : Option Word) (depth : Nat) :
    pieceNames (pathText outermost) (opening ++ (target ++ renameText rename ++ closings depth)) =
      (outermost.map fun path => path.last.text).toList := by
  have named :
      targetName (pathText outermost) target =
        (outermost.map fun path => path.last.text).getD [] := by
    rw [← lastSegment_pathText, targetName, if_pos (by simpa using isModule)]
  have nonempty := found_ne_nil outermost (.module none)
  rcases isModule with rfl | rfl
  · exact pieceNames_leaf outermost isOpening (by simp [InTarget]; decide) rename (by simp) named
      nonempty depth
  · exact pieceNames_leaf outermost isOpening (by simp [InTarget]; decide) rename (by simp) named
      nonempty depth

private theorem pieceNames_everything {opening : List Char} (isOpening : IsOpening opening)
    (path : WordPath) (depth : Nat) :
    pieceNames (pathText outermost) (opening ++ (path.text ++ "::*".toList ++ closings depth)) =
      [['*']] := by
  have inTarget : ∀ c ∈ path.text ++ "::*".toList, InTarget c := by
    intro c member
    rcases List.mem_append.mp member with inPath | atEnd
    · exact inTarget_path path c inPath
    · exact (by simp only [InTarget]; decide : ∀ c ∈ "::*".toList, InTarget c) c atEnd
  have found :=
    pieceNames_leaf outermost isOpening inTarget none (fun _ => rfl) (targetName_everything _ path)
    (found_ne_nil outermost (.everything path.last true)) depth
  rwa [renameText, List.append_nil] at found

mutual

/-- A tree that stands in a piece behind the starts of groups and before as many closing braces as
there may be. -/
theorem pieceNames_tree (around : Option Word) {opening : List Char} (isOpening : IsOpening opening)
    (depth : Nat) :
    ∀ tree : ImportTree,
      pieceNames (pathText outermost) (opening ++ (tree.text ++ closings depth)) =
        (tree.leaves around true).filterMap (Leaf.found outermost)
  | .item path rename => pieceNames_item outermost isOpening path rename depth
  | .everything path => pieceNames_everything outermost isOpening path depth
  | .module rename => by
    rw [ImportTree.text, ImportTree.leaves,
      pieceNames_module outermost isOpening (.inl rfl) rename depth]
    cases outermost <;> rfl
  | .star => by
    have found := pieceNames_module outermost isOpening (.inr rfl) none depth
    rw [renameText, List.append_nil] at found
    rw [ImportTree.text, ImportTree.leaves, found]
    cases outermost <;> rfl
  | .group path trees => by
    have inside :=
      pieceNames_trees ((path.map WordPath.last).or around) (isOpening.group path) (depth + 1) trees
    rw [ImportTree.text, ImportTree.leaves, ← inside]
    simp [closings_succ]

private theorem pieceNames_trees (around : Option Word) {opening : List Char}
    (isOpening : IsOpening opening) (depth : Nat) :
    ∀ trees : List ImportTree,
      pieceNames (pathText outermost) (opening ++ (ImportTree.allText trees ++ closings depth)) =
        (ImportTree.allLeaves around trees).filterMap (Leaf.found outermost)
  | [] => pieceNames_empty outermost isOpening depth
  | [tree] => by
    rw [ImportTree.allText, ImportTree.allLeaves, ImportTree.allLeaves, List.append_nil]
    exact pieceNames_tree around isOpening depth tree
  | tree :: next :: rest => by
    have here := pieceNames_tree around isOpening 0 tree
    have later := pieceNames_trees around isOpening_space depth (next :: rest)
    have split : opening ++ (ImportTree.allText (tree :: next :: rest) ++ closings depth) =
        opening ++ (tree.text ++ closings 0) ++ ',' ::
          ([' '] ++ (ImportTree.allText (next :: rest) ++
          closings depth)) := by
      rw [ImportTree.allText]
      simp
    rw [split, pieceNames_append, here, later, ← List.filterMap_append]
    rfl

end

end Trees

/-- A tree without braces is one piece, and only a star behind a path is taken off it. -/
theorem importedNames_of_plain {target : List Char} (plain : ∀ c ∈ target, Text.isBlank c = false)
    (noBrace : '{' ∉ target) (rename : Option Word) :
    importedNames (target ++ renameText rename) =
      match Text.dropSuffix? "::*".toList target with
      | some path => pieceNames path ['*']
      | none => pieceNames [] target := by
  have unopened : (target ++ renameText rename).dropWhile (· != '{') = [] := by
    rw [List.dropWhile_eq_nil_iff]
    intro c member
    have absent : '{' ∉ target ++ renameText rename := by
      rw [List.mem_append, not_or]
      exact ⟨noBrace, not_mem_renameText (by decide) (by decide) rename⟩
    simpa using fun same : c = '{' => absent (same ▸ member)
  have trimmed : Text.trim target = target := Text.strip_of_outside plain
  rw [importedNames_eq, splitTree, unopened, before_renameText plain]
  dsimp only
  rw [trimmed]
  cases Text.dropSuffix? "::*".toList target with
  | none => rfl
  | some path => rfl

private theorem dropSuffix?_star {target : List Char} (noStar : '*' ∉ target) :
    Text.dropSuffix? "::*".toList target = none := by
  cases dropped : Text.dropSuffix? "::*".toList target with
  | none => rfl
  | some rest => exact absurd ((Text.prefix_of_dropSuffix? dropped).2.subset (by simp)) noStar

private theorem splitTree_group (path : Option WordPath) (inside : List Char) :
    splitTree (groupStart path ++ '{' :: (inside ++ ['}'])) = (pathText path, inside) := by
  have beforeBrace : ∀ c ∈ groupStart path, (c != '{') = true := by
    intro c member
    rcases groupStart_chars path c member with word | rfl
    · simpa using fun same : c = '{' => absurd (same ▸ word) (by decide)
    · rfl
  have opened :
      (groupStart path ++ '{' :: (inside ++ ['}'])).dropWhile (· != '{') =
        '{' :: (inside ++ ['}']) := by
    rw [List.dropWhile_append_of_pos beforeBrace]
    rfl
  have leading :
      (groupStart path ++ '{' :: (inside ++ ['}'])).takeWhile (· != '{') = groupStart path := by
    rw [List.takeWhile_append_of_pos beforeBrace]
    exact List.append_nil _
  have closed : (inside ++ ['}']).contains '}' = true := by simp
  rw [splitTree, opened, leading, stripEnd_groupStart]
  dsimp only
  rw [if_pos closed]
  simp

private theorem importedNames_item (path : ItemPath) (rename : Option Word) :
    importedNames (path.text ++ renameText rename) = [path.last.text] := by
  have found := pieceNames_item none isOpening_nil path none 0
  rw [importedNames_of_plain path.isBlank (path.not_mem_text (by decide) (by decide)),
    dropSuffix?_star (path.not_mem_text (by decide) (by decide))]
  simpa [renameText, pathText] using found

private theorem importedNames_everything (path : WordPath) :
    importedNames (path.text ++ "::*".toList) = [path.last.text] := by
  have found := pieceNames_module (some path) isOpening_nil (.inr rfl) none 0
  have plain : ∀ c ∈ path.text ++ "::*".toList, Text.isBlank c = false := by
    intro c member
    rcases List.mem_append.mp member with inPath | atEnd
    · exact path.isBlank c inPath
    · exact (by decide : ∀ c ∈ "::*".toList, Text.isBlank c = false) c atEnd
  have noBrace : '{' ∉ path.text ++ "::*".toList := by
    rw [List.mem_append, not_or]
    exact ⟨path.not_mem_text (by decide) (by decide), by decide⟩
  have split := importedNames_of_plain plain noBrace none
  rw [renameText, List.append_nil, Text.dropSuffix?_append] at split
  rw [split]
  simpa [renameText, pathText] using found

private theorem importedNames_module (rename : Option Word) :
    importedNames ("self".toList ++ renameText rename) = [] := by
  rw [importedNames_of_plain (by decide) (by decide), dropSuffix?_star (by decide)]
  decide

/-- Trees bring in one name for each leaf for which one is found. -/
theorem importedNames_eq_filterMap (tree : ImportTree) :
    importedNames tree.text = (tree.leaves none false).filterMap (Leaf.found tree.outermost?) := by
  cases tree with
  | item path rename => exact importedNames_item path rename
  | everything path => exact importedNames_everything path
  | module rename => exact importedNames_module rename
  | star => decide
  | group path trees =>
    have found := pieceNames_trees path ((path.map WordPath.last).or none) isOpening_nil 0 trees
    rw [ImportTree.text, importedNames_eq, splitTree_group]
    simpa [ImportTree.leaves, ImportTree.outermost?] using found

/-!
## Which names are right
-/

/-- Where one function selects no more than another, both select the same only if they agree on
every element. -/
theorem filterMap_eq_iff {α β : Type} {first second : α → Option β} {items : List α}
    (fewer : ∀ item ∈ items, (first item).isSome → (second item).isSome) :
    items.filterMap first = items.filterMap second ↔ ∀ item ∈ items, first item = second item := by
  have shorter : ∀ item ∈ items, (first item).toList.length ≤ (second item).toList.length := by
    intro item member
    have both := fewer item member
    cases chosen : first item with
    | none => exact Nat.zero_le _
    | some value =>
      obtain ⟨other, also⟩ := Option.isSome_iff_exists.mp (both (by rw [chosen]; rfl))
      rw [also]
      exact Nat.le_refl 1
  have toList_inj : ∀ {left right : Option β}, left.toList = right.toList ↔ right = left := by
    intro left right
    cases left <;> cases right <;> simp [eq_comm]
  rw [List.filterMap_eq_flatMap_toList, List.filterMap_eq_flatMap_toList, eq_comm,
    Text.flatMap_eq_iff shorter]
  exact forall₂_congr fun item _ => toList_inj

private theorem found_eq_name_iff (outermost : Option WordPath) (leaf : Leaf) :
    leaf.found outermost = leaf.name.map Word.text ↔ leaf.NamedRight outermost := by
  cases leaf with
  | item word => simp [Leaf.found, Leaf.name, Leaf.NamedRight]
  | everything owner inBraces =>
    cases inBraces with
    | false => simp [Leaf.found, Leaf.name, Leaf.NamedRight]
    | true =>
      have notStar : ['*'] ≠ owner.text := by
        intro same
        have noStar : '*' ∉ owner.text := owner.not_mem (by decide)
        rw [← same] at noStar
        exact noStar (List.mem_singleton_self '*')
      simpa [Leaf.found, Leaf.name, Leaf.NamedRight] using notStar
  | module around =>
    have words :
        (outermost.map fun path => path.last.text) =
          (outermost.map WordPath.last).map Word.text := by
      rw [Option.map_map]
      rfl
    rw [Leaf.found, Leaf.name, Leaf.NamedRight, words,
      Option.map_inj_right fun _ _ => Word.text_inj.mp]
    exact eq_comm

mutual

/-- Below a module there is always a module around a leaf. -/
theorem isSome_name_of_tree (around : Word) (inBraces : Bool) :
    ∀ (tree : ImportTree), ∀ leaf ∈ tree.leaves (some around) inBraces, leaf.name.isSome
  | .item path rename => by simp [ImportTree.leaves, Leaf.name]
  | .everything path => by simp [ImportTree.leaves, Leaf.name]
  | .module rename => by simp [ImportTree.leaves, Leaf.name]
  | .star => by simp [ImportTree.leaves, Leaf.name]
  | .group none trees => isSome_name_of_trees around trees
  | .group (some path) trees => isSome_name_of_trees path.last trees

private theorem isSome_name_of_trees (around : Word) :
    ∀ (trees : List ImportTree), ∀ leaf ∈ ImportTree.allLeaves (some around) trees, leaf.name.isSome
  | [] => by simp [ImportTree.allLeaves]
  | tree :: rest => by
    intro leaf member
    rw [ImportTree.allLeaves] at member
    rcases List.mem_append.mp member with here | later
    · exact isSome_name_of_tree around true tree leaf here
    · exact isSome_name_of_trees around rest leaf later

end

private theorem isSome_name_of_found {tree : ImportTree} {leaf : Leaf}
    (member : leaf ∈ tree.leaves none false) (found : (leaf.found tree.outermost?).isSome) :
    (leaf.name.map Word.text).isSome := by
  rw [Option.isSome_map]
  cases tree with
  | group path trees =>
    cases path with
    | some path => exact isSome_name_of_trees path.last trees leaf member
    | none =>
      cases leaf with
      | item word => rfl
      | everything owner inBraces => rfl
      | module around => cases found
  | item path rename =>
    cases List.mem_singleton.mp member
    rfl
  | everything path =>
    cases List.mem_singleton.mp member
    rfl
  | module rename =>
    cases List.mem_singleton.mp member
    cases found
  | star =>
    cases List.mem_singleton.mp member
    cases found

/-- One name is found for each leaf of a tree from left to right. The names are those that the tree
is meant to bring in exactly if no path with a star stands in braces and all leaves that stand for a
module stand for the outermost one. -/
theorem importedNames_of_tree (tree : ImportTree) :
    importedNames tree.text = (tree.leaves none false).filterMap (Leaf.found tree.outermost?) ∧
      (importedNames tree.text = tree.names ↔
        ∀ leaf ∈ tree.leaves none false, leaf.NamedRight tree.outermost?) := by
  have found := importedNames_eq_filterMap tree
  refine ⟨found, ?_⟩
  rw [found, ImportTree.names, filterMap_eq_iff fun leaf member => isSome_name_of_found member]
  exact forall₂_congr fun leaf _ => found_eq_name_iff tree.outermost? leaf

/-- Two braces deep, `self` is named after the wrong module, and a star in braces is named after
itself. -/
theorem nested_module_misnamed :
    ∃ tree : ImportTree, tree.text = "a::\x7bb::\x7bself, c\x7d, d::*\x7d".toList ∧
      importedNames tree.text = ["a".toList, "c".toList, "*".toList] ∧
      tree.names = ["b".toList, "c".toList, "d".toList] := by
  refine ⟨.group (some ⟨[], .ofChar 'a' (by decide)⟩) [.group (some ⟨[], .ofChar 'b' (by decide)⟩)
    [.module none, .item ⟨⟨[], .ofChar 'c' (by decide)⟩, .inr (by decide)⟩ none],
      .everything ⟨[], .ofChar 'd' (by decide)⟩], ?_⟩
  decide

end Symtab.Rules.Rust
