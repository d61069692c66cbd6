import FlipperMcp.Python.Lines
import FlipperMcp.Tools.Colours

/-! # The rows of a storage tree

A row printed for a file is read back as it was, while `int` takes its size. The path of a
directory that ends like a size is cut off there, and the rest read as a size
(`tree_round_trip_iff`).
-/

namespace FlipperMcp

open Lexical Python

namespace CliTyped

section Sizes

/-- White space, decimal digits and a `b`. -/
def IsSizeGroup (digits text : List Char) : Prop :=
  ∃ gap, gap ≠ [] ∧ Blank isSpace gap ∧ digits ≠ [] ∧ (∀ c ∈ digits, isDecimal c = true) ∧
    text = gap ++ (digits ++ ['b'])

theorem not_isSpace_of_isDecimal {c : Char} (decimal : isDecimal c = true) : isSpace c = false := by
  by_contra space
  rw [isDecimal_of_isSpace (Bool.eq_true_of_not_eq_false space)] at decimal
  exact nomatch decimal

theorem sizeGroup?_eq_some {text digits : List Char} :
    sizeGroup? text = some digits ↔ IsSizeGroup digits text := by
  constructor
  · intro found
    unfold sizeGroup? at found
    dsimp only at found
    split_ifs at found with whole
    obtain ⟨some_, some_', same⟩ := whole
    obtain rfl := Option.some.inj found
    refine ⟨_, some_, fun c member => ?_, some_', fun c member => ?_, same⟩
    · exact List.all_eq_true.mp List.all_takeWhile c member
    · exact List.all_eq_true.mp List.all_takeWhile c member
  · rintro ⟨gap, some_, blank, some_', decimal, rfl⟩
    have size : (digits ++ ['b']).takeWhile isDecimal = digits := by
      rw [List.takeWhile_append_of_pos decimal, List.takeWhile_cons_of_neg (by decide), List.append_nil]
    have spaces : (gap ++ (digits ++ ['b'])).takeWhile isSpace = gap := by
      obtain ⟨d, digits, rfl⟩ := List.exists_cons_of_ne_nil some_'
      have solid := not_isSpace_of_isDecimal (decimal d (List.mem_cons_self ..))
      rw [List.takeWhile_append_of_pos blank, List.cons_append,
        List.takeWhile_cons_of_neg (Bool.eq_false_iff.mp solid), List.append_nil]
    unfold sizeGroup?
    simp only [spaces, List.drop_left, size]
    rw [if_pos ⟨some_, some_', trivial⟩]

/-- Behind a character that is no space there is none. -/
theorem IsSizeGroup.behind {text digits front rest : List Char} {c : Char}
    (group : IsSizeGroup digits text) (same : text = front ++ c :: rest) (solid : isSpace c = false) :
    ∀ d ∈ rest, isSpace d = false := by
  obtain ⟨gap, -, blank, -, decimal, rfl⟩ := group
  have tail : ∀ d ∈ digits ++ ['b'], isSpace d = false := by
    intro d member
    rcases List.mem_append.mp member with inside | last
    · exact not_isSpace_of_isDecimal (decimal d inside)
    · rw [List.mem_singleton.mp last]
      rfl
  rcases List.append_eq_append_iff.mp same with ⟨more, -, later⟩ | ⟨more, early, later⟩
  · intro d member
    apply tail
    rw [later]
    exact List.mem_append_right _ (List.mem_cons_of_mem _ member)
  · cases more with
    | nil =>
        intro d member
        apply tail
        rw [← List.nil_append (digits ++ ['b']), ← later]
        exact List.mem_cons_of_mem _ member
    | cons first more =>
        obtain ⟨rfl, -⟩ := List.cons.inj later
        have space := blank c (early ▸ List.mem_append_right _ (List.mem_cons_self ..))
        rw [space] at solid
        exact nomatch solid

/-- A path that ends in no space is taken whole, up to the size. -/
theorem pathGroup_append {group digits : List Char} (size : IsSizeGroup digits group) {last : Char}
    (solid : isSpace last = false) (front : List Char) :
    pathGroup (front ++ last :: group) = (front ++ [last], some digits) := by
  induction front with
  | nil =>
      rw [List.nil_append, pathGroup, sizeGroup?_eq_some.mpr size]
      rfl
  | cons c front ih =>
      have none_ : sizeGroup? (front ++ last :: group) = none := by
        rw [Option.eq_none_iff_forall_ne_some]
        intro digits' found
        have behind := (sizeGroup?_eq_some.mp found).behind rfl solid
        obtain ⟨gap, some_, blank, -, -, rfl⟩ := size
        obtain ⟨first, gap, rfl⟩ := List.exists_cons_of_ne_nil some_
        have space := blank first (List.mem_cons_self ..)
        rw [behind first (List.mem_cons_self ..)] at space
        exact nomatch space
      rw [List.cons_append, pathGroup, none_, ih]
      rfl

/-- A text ends like a size behind its first character. -/
def EndsInSize (path : List Char) : Prop :=
  ∃ front digits group, front ≠ [] ∧ path = front ++ group ∧ IsSizeGroup digits group

theorem endsInSize_cons {c : Char} {rest : List Char} :
    EndsInSize (c :: rest) ↔ (∃ digits, IsSizeGroup digits rest) ∨ EndsInSize rest := by
  constructor
  · rintro ⟨front, digits, group, some_, same, size⟩
    obtain ⟨first, front, rfl⟩ := List.exists_cons_of_ne_nil some_
    obtain ⟨-, rfl⟩ := List.cons.inj same
    by_cases empty : front = []
    · rw [empty]
      exact .inl ⟨digits, size⟩
    · exact .inr ⟨front, digits, group, empty, rfl, size⟩
  · rintro (⟨digits, size⟩ | ⟨front, digits, group, some_, rfl, size⟩)
    · exact ⟨[c], digits, rest, List.cons_ne_nil _ _, rfl, size⟩
    · exact ⟨c :: front, digits, group, List.cons_ne_nil _ _, rfl, size⟩

/-- A path alone is taken whole, unless it ends like a size. -/
theorem pathGroup_alone (path : List Char) :
    (¬ EndsInSize path → pathGroup path = (path, none)) ∧
      (EndsInSize path → ∃ digits, (pathGroup path).2 = some digits) := by
  induction path with
  | nil =>
      refine ⟨fun _ => rfl, ?_⟩
      rintro ⟨front, digits, group, some_, same, -⟩
      exact absurd (List.append_eq_nil_iff.mp same.symm).1 some_
  | cons c path ih =>
      rw [endsInSize_cons, pathGroup]
      cases found : sizeGroup? path with
      | some digits =>
          have size : ∃ digits, IsSizeGroup digits path := ⟨digits, sizeGroup?_eq_some.mp found⟩
          exact ⟨fun other => absurd (.inl size) other, fun _ => ⟨digits, rfl⟩⟩
      | none =>
          have none_ : ¬ ∃ digits, IsSizeGroup digits path := by
            rintro ⟨digits, size⟩
            rw [sizeGroup?_eq_some.mpr size] at found
            exact nomatch found
          constructor
          · intro other
            change (c :: (pathGroup path).1, (pathGroup path).2) = _
            rw [ih.1 fun ends => other (.inr ends)]
          · intro ends
            exact ih.2 (ends.resolve_left none_)

end Sizes

section Rows

/-- An entry of a storage tree, as it is printed. A directory has no size. -/
structure TreeNode where
  size : Option ℕ
  path : List Char
  depth : ℕ
  absolute : path.head? = some '/'
  stripped : trim isSpace path = path

namespace TreeNode

variable (node : TreeNode)

/-- The path, and the size of a file. -/
def fields : List Char :=
  node.path ++ node.size.elim [] fun size => ' ' :: (Nat.toDigits 10 size ++ ['b'])

/-- The printed row. -/
def row : List Char :=
  List.replicate node.depth '\t' ++ '[' :: (if node.size = none then 'D' else 'F') :: ']' :: ' ' :: node.fields

/-- The entry that belongs to the row. -/
def entry : TreeEntry :=
  { dir := node.size = none, path := node.path, sizeBytes := node.size, depth := node.depth }

/-- The path of a directory does not end like a size, and `int` takes the size of a file. -/
def Readable : Prop :=
  match node.size with
  | none => ¬ EndsInSize node.path
  | some size => (Nat.toDigits 10 size).length ≤ maxStrDigits

/-- A path ends in no space. -/
theorem path_ends : ∃ front last, node.path = front ++ [last] ∧ isSpace last = false := by
  obtain ⟨rest, begins⟩ := List.head?_eq_some_iff.mp node.absolute
  have left : node.path.dropWhile isSpace = node.path := by rw [begins]; rfl
  have right : (node.path.reverse.dropWhile isSpace).reverse = node.path := by
    have whole := node.stripped
    unfold trim at whole
    rwa [left] at whole
  have some_ : node.path ≠ [] := begins ▸ List.cons_ne_nil _ _
  refine ⟨node.path.dropLast, node.path.getLast some_, (List.dropLast_append_getLast some_).symm, ?_⟩
  have same := List.reverse_eq_iff.mp right
  by_contra space
  rw [← List.dropLast_append_getLast some_, List.reverse_append, List.reverse_singleton,
    List.singleton_append, List.dropWhile_cons_of_pos (Bool.eq_true_of_not_eq_false space)] at same
  have shorter := congrArg List.length same
  have bounded := (List.dropWhile_suffix isSpace (l := node.path.dropLast.reverse)).length_le
  rw [List.length_cons] at shorter
  omega

theorem isSizeGroup_printed (size : ℕ) :
    IsSizeGroup (Nat.toDigits 10 size) (' ' :: (Nat.toDigits 10 size ++ ['b'])) :=
  ⟨[' '], List.cons_ne_nil _ _, fun _ member => List.mem_singleton.mp member ▸ rfl,
    Nat.toDigits_ne_nil, (toDigits_value size).1, rfl⟩

theorem fields_ends : ∃ front last, node.fields = front ++ [last] ∧ isSpace last = false := by
  unfold fields
  cases node.size with
  | none =>
      rw [Option.elim_none, List.append_nil]
      exact node.path_ends
  | some size =>
      refine ⟨node.path ++ ' ' :: Nat.toDigits 10 size, 'b', ?_, rfl⟩
      rw [Option.elim_some, List.append_assoc, List.cons_append]

/-- Stripping takes the tabs away. -/
theorem trim_row : trim isSpace node.row =
    '[' :: (if node.size = none then 'D' else 'F') :: ']' :: ' ' :: node.fields := by
  have tabs : Blank isSpace (List.replicate node.depth '\t') :=
    fun c member => List.eq_of_mem_replicate member ▸ rfl
  obtain ⟨front, last, ends, solid⟩ := node.fields_ends
  unfold row
  rw [trim_blank_append tabs]
  apply trim_eq_self
  · exact List.dropWhile_cons_of_neg (by decide)
  · rw [ends]
    simp only [← List.cons_append]
    rw [List.reverse_append, List.reverse_singleton, List.singleton_append,
      List.dropWhile_cons_of_neg (Bool.eq_false_iff.mp solid)]

theorem treeRow?_row : treeRow? (trim isSpace node.row) =
    some (if node.size = none then 'D' else 'F', pathGroup node.fields) := by
  obtain ⟨rest, begins⟩ := List.head?_eq_some_iff.mp node.absolute
  have path : (' ' :: node.fields).dropWhile isSpace = node.fields := by
    unfold fields
    rw [begins]
    rfl
  have kind : (if node.size = none then 'D' else 'F') = 'D' ∨ (if node.size = none then 'D' else 'F') = 'F' := by
    by_cases dir : node.size = none
    · exact .inl (if_pos dir)
    · exact .inr (if_neg dir)
  have shorter : node.fields ≠ ' ' :: node.fields := (List.cons_ne_self _ _).symm
  have some_ : node.fields ≠ [] := by
    unfold fields
    rw [begins]
    exact List.cons_ne_nil _ _
  rw [node.trim_row]
  simp only [treeRow?, path]
  rw [if_pos ⟨kind, shorter, some_⟩]

theorem depth_row : (node.row.takeWhile (· = '\t')).length = node.depth := by
  have tabs : ∀ c ∈ List.replicate node.depth '\t', decide (c = '\t') = true :=
    fun c member => decide_eq_true (List.eq_of_mem_replicate member)
  unfold row
  rw [List.takeWhile_append_of_pos tabs, List.takeWhile_cons_of_neg (by decide), List.append_nil,
    List.length_replicate]

/-- What a row is read as. -/
theorem treeLine_row {rawLine : List Char} (coloured : Coloured node.row rawLine) :
    treeLine (String.ofList rawLine) = (do
      let sizeBytes ← sizeOf? (pathGroup node.fields).2
      .ok [{ dir := node.size = none, path := (pathGroup node.fields).1, sizeBytes, depth := node.depth }]) := by
  have kind : decide ((if node.size = none then 'D' else 'F') = 'D') = decide (node.size = none) := by
    by_cases dir : node.size = none
    · rw [if_pos dir, decide_eq_true dir]
      rfl
    · rw [if_neg dir, decide_eq_false dir]
      rfl
  unfold treeLine
  rw [String.toList_ofList, coloured_iff.mp coloured]
  simp only [node.treeRow?_row, node.depth_row, kind]

/-- A row is read as one entry, if it is read. -/
theorem treeLine_single {rawLine : List Char} (coloured : Coloured node.row rawLine)
    {found : List TreeEntry} (read : treeLine (String.ofList rawLine) = .ok found) :
    ∃ entry, found = [entry] := by
  rw [node.treeLine_row coloured] at read
  cases sized : sizeOf? (pathGroup node.fields).2 with
  | error e =>
      rw [sized] at read
      exact nomatch read
  | ok sizeBytes =>
      rw [sized] at read
      exact ⟨_, (Except.ok.inj read).symm⟩

theorem sizeOf?_some {digits : List Char} {sizeBytes : Option ℕ}
    (read : sizeOf? (some digits) = .ok sizeBytes) : ∃ size, int digits = .ok size ∧ sizeBytes = some size := by
  rw [sizeOf?] at read
  cases value : int digits with
  | error text =>
      rw [value] at read
      exact nomatch read
  | ok size =>
      rw [value] at read
      exact ⟨size, rfl, (Except.ok.inj read).symm⟩

/-- **When a row is read as it was printed.** -/
theorem treeLine_iff {rawLine : List Char} (coloured : Coloured node.row rawLine) :
    treeLine (String.ofList rawLine) = .ok [node.entry] ↔ node.Readable := by
  rw [node.treeLine_row coloured]
  unfold Readable entry fields
  cases printed : node.size with
  | none =>
      rw [Option.elim_none, List.append_nil]
      by_cases ends : EndsInSize node.path
      · obtain ⟨digits, cut⟩ := (pathGroup_alone node.path).2 ends
        refine iff_of_false (fun read => ?_) fun other => other ends
        rw [cut] at read
        cases sized : sizeOf? (some digits) with
        | error e =>
            rw [sized] at read
            exact nomatch read
        | ok sizeBytes =>
            obtain ⟨size, -, rfl⟩ := sizeOf?_some sized
            rw [sized] at read
            have entries := (List.cons.inj (Except.ok.inj read)).1
            exact nomatch congrArg TreeEntry.sizeBytes entries
      · rw [(pathGroup_alone node.path).1 ends]
        exact iff_of_true rfl ends
  | some size =>
      obtain ⟨front, last, whole, solid⟩ := node.path_ends
      have group : pathGroup (node.path ++ ' ' :: (Nat.toDigits 10 size ++ ['b'])) =
          (node.path, some (Nat.toDigits 10 size)) := by
        rw [whole, List.append_assoc, List.singleton_append]
        exact pathGroup_append (isSizeGroup_printed size) solid front
      rw [Option.elim_some, group]
      dsimp only
      constructor
      · intro read
        cases sized : sizeOf? (some (Nat.toDigits 10 size)) with
        | error e =>
            rw [sized] at read
            exact nomatch read
        | ok sizeBytes =>
            obtain ⟨value, taken, -⟩ := sizeOf?_some sized
            exact ((int_ok_iff _).mp ⟨value, taken⟩).2.2
      · intro short
        rw [sizeOf?, int_toDigits short]
        rfl

end TreeNode

/-- The lines of a listing: coloured rows of its entries, and others that are no rows. -/
inductive TreeListing : List TreeNode → List (List Char) → Prop
  | nil : TreeListing [] []
  | row {node : TreeNode} {nodes : List TreeNode} {line : List Char} {lines : List (List Char)}
      (coloured : Coloured node.row line) (rest : TreeListing nodes lines) :
      TreeListing (node :: nodes) (line :: lines)
  | other {nodes : List TreeNode} {line : List Char} {lines : List (List Char)}
      (unrecognised : treeRow? (trim isSpace (stripFrom 0 line)) = none) (rest : TreeListing nodes lines) :
      TreeListing nodes (line :: lines)

theorem TreeListing.collect_iff {nodes : List TreeNode} {lines : List (List Char)}
    (listed : TreeListing nodes lines) :
    collect treeLine (lines.map String.ofList) = .ok (nodes.map TreeNode.entry) ↔
      ∀ node ∈ nodes, node.Readable := by
  induction listed with
  | nil => exact iff_of_true rfl fun _ member => nomatch member
  | @row node nodes line lines coloured rest ih =>
      rw [List.forall_mem_cons, ← ih, ← node.treeLine_iff coloured, List.map_cons, List.map_cons,
        collect_cons_eq_ok]
      constructor
      · rintro ⟨found, others, first, later, same⟩
        obtain ⟨entry, rfl⟩ := node.treeLine_single coloured first
        obtain ⟨rfl, rfl⟩ := List.cons.inj same
        exact ⟨first, later⟩
      · rintro ⟨first, later⟩
        exact ⟨_, _, first, later, rfl⟩
  | @other nodes line lines unrecognised rest ih =>
      have nothing : treeLine (String.ofList line) = .ok [] := by
        unfold treeLine
        rw [String.toList_ofList]
        simp only [unrecognised]
      rw [← ih, List.map_cons, collect_cons_eq_ok]
      constructor
      · rintro ⟨found, others, first, later, same⟩
        rw [nothing] at first
        obtain rfl := Except.ok.inj first
        rw [same]
        exact later
      · intro later
        exact ⟨[], _, nothing, later, rfl⟩

end Rows

/-- **When a printed storage tree is read back.** -/
theorem tree_round_trip_iff {nodes : List TreeNode} {lines : List (List Char)} {output : List Char}
    (listed : TreeListing nodes lines) (printed : PrintedLines lines output) :
    parseTree (String.ofList output) = .ok (nodes.map TreeNode.entry) ↔ ∀ node ∈ nodes, node.Readable := by
  unfold parseTree splitlines
  rw [String.toList_ofList, printed.linesFrom]
  exact listed.collect_iff

/-- A directory, a prompt, and a file in two colours. -/
def badusb : TreeNode where
  size := none
  path := "/ext/badusb".toList
  depth := 0
  absolute := rfl
  stripped := by decide

def demo : TreeNode where
  size := some 1636
  path := "/ext/badusb/my demo.txt".toList
  depth := 1
  absolute := rfl
  stripped := by decide

def demoLine : List Char :=
  escape :: ("[33m".toList ++ "\t[F] /ext/badusb/my demo.txt".toList) ++ escape :: "[0m 1636b".toList

theorem tree_round_trip_demo :
    parseTree (String.ofList (badusb.row ++ (['\n'] ++ (">: ".toList ++ (['\r', '\n'] ++ demoLine))))) =
      .ok [badusb.entry, demo.entry] := by
  have coloured : Coloured demo.row demoLine := coloured_iff.mpr (by decide +kernel)
  have plain : Coloured badusb.row badusb.row := coloured_iff.mpr (by decide +kernel)
  have listed : TreeListing [badusb, demo] [badusb.row, ">: ".toList, demoLine] :=
    .row plain (.other (by decide +kernel) (.row coloured .nil))
  have printed : PrintedLines [badusb.row, ">: ".toList, demoLine] _ :=
    .line (by decide +kernel) (@IsLineBreak.single '\n' rfl (by decide))
      (.line (by decide +kernel) .pair (.last (by decide +kernel) (List.cons_ne_nil _ _)))
  have readable : ∀ node ∈ [badusb, demo], node.Readable := by
    rw [List.forall_mem_cons, List.forall_mem_singleton]
    constructor
    · intro ends
      obtain ⟨digits, cut⟩ := (pathGroup_alone badusb.path).2 ends
      exact nomatch cut
    · exact (by decide : (Nat.toDigits 10 1636).length ≤ maxStrDigits)
  exact (tree_round_trip_iff listed printed).mpr readable

/-- A directory whose name ends like a size. -/
def sized : TreeNode where
  size := none
  path := "/ext/a 12b".toList
  depth := 0
  absolute := rfl
  stripped := by decide

theorem tree_directory_sized : ¬ ∀ (nodes : List TreeNode) (lines : List (List Char)) (output : List Char),
    TreeListing nodes lines → PrintedLines lines output →
      parseTree (String.ofList output) = .ok (nodes.map TreeNode.entry) := by
  intro round
  have plain : Coloured sized.row sized.row := coloured_iff.mpr (by decide +kernel)
  have read := round [sized] [sized.row] sized.row (.row plain .nil)
    (.last (by decide +kernel) (List.cons_ne_nil _ _))
  have cut : parseTree (String.ofList sized.row) =
      .ok [{ dir := true, path := "/ext/a".toList, sizeBytes := some 12, depth := 0 }] := by
    rfl
  rw [cut] at read
  have entries := (List.cons.inj (Except.ok.inj read)).1
  exact nomatch congrArg TreeEntry.sizeBytes entries

end CliTyped

end FlipperMcp
