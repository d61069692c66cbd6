import FlipperMcp.Python.Lines
import FlipperMcp.Tools.Colours
import FlipperMcp.Tools.TypedOutput

/-! # The scan grid

However the rows of a scan are ordered, spaced and coloured, `_parse_i2c` returns the
addresses whose cells are not silent, and whatever it reads, each address has seven bits
(`scan_decoded`).
-/

namespace FlipperMcp

open Lexical Python

namespace CliTyped

variable {responding : ℕ → Bool}

section Cells

/-- Cells with white space between them. -/
inductive PrintedCells : List (List Char) → List Char → Prop
  | last {cell gap : List Char} (word : IsWord isSpace cell) (blank : Blank isSpace gap) :
      PrintedCells [cell] (cell ++ gap)
  | cons {cell gap text : List Char} {cells : List (List Char)} (word : IsWord isSpace cell)
      (blank : Blank isSpace gap) (some_ : gap ≠ []) (rest : PrintedCells cells text) :
      PrintedCells (cell :: cells) (cell ++ gap ++ text)

theorem PrintedCells.words {cells : List (List Char)} {text : List Char}
    (printed : PrintedCells cells text) : words isSpace text = cells := by
  induction printed with
  | last word blank => rw [words_append_blank blank, word.words]
  | cons word blank some_ _ ih => rw [words_gap blank some_, word.words, ih, List.singleton_append]

theorem PrintedCells.begins {cells : List (List Char)} {text : List Char}
    (printed : PrintedCells cells text) : ∃ first rest, text = first :: rest ∧ isSpace first = false := by
  have front : ∀ {cell : List Char} (more : List Char), IsWord isSpace cell →
      ∃ first rest, cell ++ more = first :: rest ∧ isSpace first = false := by
    intro cell more word
    obtain ⟨first, cell, rfl⟩ := List.exists_cons_of_ne_nil word.some_
    exact ⟨first, cell ++ more, rfl, word.plain first (List.mem_cons_self ..)⟩
  cases printed with
  | last word _ => exact front _ word
  | cons word _ _ _ =>
      rw [List.append_assoc]
      exact front _ word

/-- The addresses of a row that respond. -/
def rowAddresses (responding : ℕ → Bool) (high : ℕ) : List ℕ :=
  ((List.range 16).map fun col => high * 16 + col).filter responding

/-- A row shows which addresses respond. What stands behind the sixteenth cell does not
matter. -/
structure Shows (responding : ℕ → Bool) (high : ℕ) (cells : List (List Char)) : Prop where
  columns : 16 ≤ cells.length
  silent : ∀ col < 16, ∀ cell, cells[col]? = some cell → (cell = ['-'] ↔ responding (high * 16 + col) = false)

/-- From a column on, the loop finds the addresses that respond. -/
theorem cellAddresses_from {high : ℕ} {cells : List (List Char)} {col : ℕ} (inside : col ≤ 16)
    (columns : 16 - col ≤ cells.length)
    (silent : ∀ i < 16 - col, ∀ cell, cells[i]? = some cell →
      (cell = ['-'] ↔ responding (high * 16 + (col + i)) = false)) :
    cellAddresses high col cells =
      (((List.range' col (16 - col)).map fun col => high * 16 + col).filter responding).map hexAddress := by
  induction cells generalizing col with
  | nil =>
      rw [List.length_nil, Nat.le_zero] at columns
      rw [columns]
      rfl
  | cons cell cells ih =>
      by_cases full : 16 ≤ col
      · rw [cellAddresses, if_pos full, Nat.sub_eq_zero_of_le full]
        rfl
      · have left : 16 - col = 16 - (col + 1) + 1 := by omega
        rw [List.length_cons, left] at columns
        have later := ih (by omega) (Nat.le_of_succ_le_succ columns) fun i below cell' found => by
          rw [Nat.add_assoc, Nat.add_comm 1 i]
          exact silent (i + 1) (by omega) cell' found
        have here := silent 0 (by omega) cell rfl
        rw [Nat.add_zero] at here
        rw [cellAddresses, if_neg full, left, List.range'_succ, List.map_cons]
        by_cases quiet : cell = ['-']
        · rw [if_neg (not_not.mpr quiet), List.filter_cons_of_neg (Bool.eq_false_iff.mp (here.mp quiet)), later]
        · have answers := Bool.eq_true_of_not_eq_false fun silent => quiet (here.mpr silent)
          rw [if_pos quiet, List.filter_cons_of_pos answers, List.map_cons, later]

theorem Shows.addresses {high : ℕ} {cells : List (List Char)} (shown : Shows responding high cells) :
    cellAddresses high 0 cells = (rowAddresses responding high).map hexAddress := by
  unfold rowAddresses
  rw [List.range_eq_range']
  refine cellAddresses_from (Nat.zero_le _) shown.columns fun i below cell found => ?_
  rw [Nat.zero_add]
  exact shown.silent i below cell found

end Cells

section Grid

/-- A printed row of the grid. -/
def PrintedRow (high : ℕ) (cells : List (List Char)) (line : List Char) : Prop :=
  ∃ indent gap gap' text, Blank isSpace indent ∧ Blank isSpace gap ∧ Blank isSpace gap' ∧
    PrintedCells cells text ∧ line = indent ++ Char.ofNat (48 + high) :: (gap ++ '|' :: (gap' ++ text))

theorem rowDigit : ∀ high < 8, (Char.ofNat (48 + high)).toNat = 48 + high ∧
    isSpace (Char.ofNat (48 + high)) = false := by
  decide +kernel

/-- The expression takes the row apart. -/
theorem PrintedRow.recognised {high : ℕ} {cells : List (List Char)} {line : List Char} (low : high < 8)
    (printed : PrintedRow high cells line) :
    ∃ kept, i2cRow? (trim isSpace line) = some (Char.ofNat (48 + high), kept) ∧ words isSpace kept = cells := by
  obtain ⟨indent, gap, gap', text, blank, blank', blank'', row, rfl⟩ := printed
  obtain ⟨code, solid⟩ := rowDigit high low
  obtain ⟨first, rest, begins, solid'⟩ := row.begins
  have some_ : ¬ Blank isSpace text := by
    intro none_
    rw [none_ first (begins ▸ List.mem_cons_self ..)] at solid'
    exact nomatch solid'
  obtain ⟨front, last, back, whole, ends, trailing⟩ := exists_last some_
  have body : text = (front ++ [last]) ++ back := by
    rw [whole, List.append_assoc, List.singleton_append]
  have kept : words isSpace (front ++ [last]) = cells := by
    rw [← row.words, body, words_append_blank trailing]
  have start : (front ++ [last]).dropWhile isSpace = front ++ [last] := by
    cases front with
    | nil => exact List.dropWhile_cons_of_neg (Bool.eq_false_iff.mp ends)
    | cons c front =>
        obtain ⟨rfl, -⟩ := List.cons.inj (whole.symm.trans begins)
        exact List.dropWhile_cons_of_neg (Bool.eq_false_iff.mp solid')
  have stripped : trim isSpace (indent ++ Char.ofNat (48 + high) :: (gap ++ '|' :: (gap' ++ text))) =
      Char.ofNat (48 + high) :: (gap ++ '|' :: (gap' ++ (front ++ [last]))) := by
    rw [body, trim_blank_append blank]
    have behind : Char.ofNat (48 + high) :: (gap ++ '|' :: (gap' ++ (front ++ [last] ++ back))) =
        (Char.ofNat (48 + high) :: (gap ++ '|' :: (gap' ++ front)) ++ [last]) ++ back := by
      simp only [List.cons_append, List.append_assoc]
    rw [behind, trim_append_blank trailing, trim_eq_self]
    · simp only [List.cons_append, List.append_assoc]
    · exact List.dropWhile_cons_of_neg (Bool.eq_false_iff.mp solid)
    · rw [List.reverse_append, List.reverse_singleton, List.singleton_append,
        List.dropWhile_cons_of_neg (Bool.eq_false_iff.mp ends)]
  have bar : (gap ++ '|' :: (gap' ++ (front ++ [last]))).dropWhile isSpace =
      '|' :: (gap' ++ (front ++ [last])) := by
    rw [List.dropWhile_append_of_pos blank', List.dropWhile_cons_of_neg (by decide)]
  have inside : (gap' ++ (front ++ [last])).dropWhile isSpace = front ++ [last] := by
    rw [List.dropWhile_append_of_pos blank'', start]
  have digit : 48 ≤ (Char.ofNat (48 + high)).toNat ∧ (Char.ofNat (48 + high)).toNat ≤ 55 ∧ front ++ [last] ≠ [] :=
    ⟨by omega, by omega, List.append_ne_nil_of_right_ne_nil _ (List.cons_ne_nil _ _)⟩
  refine ⟨front ++ [last], ?_, kept⟩
  rw [stripped]
  simp only [i2cRow?, bar, inside]
  rw [if_pos digit]

/-- The lines of a scan: rows of the grid, and others that are none. -/
inductive PrintedGrid (responding : ℕ → Bool) : List ℕ → List (List Char) → Prop
  | nil : PrintedGrid responding [] []
  | row {high : ℕ} {rows : List ℕ} {cells lines : List (List Char)} {line : List Char} (low : high < 8)
      (fresh : high ∉ rows) (printed : PrintedRow high cells line) (shown : Shows responding high cells)
      (rest : PrintedGrid responding rows lines) : PrintedGrid responding (high :: rows) (line :: lines)
  | other {rows : List ℕ} {lines : List (List Char)} {line : List Char}
      (noRow : i2cRow? (trim isSpace line) = none) (rest : PrintedGrid responding rows lines) :
      PrintedGrid responding rows (line :: lines)

theorem PrintedGrid.collect {rows : List ℕ} {lines : List (List Char)} (grid : PrintedGrid responding rows lines) :
    collect i2cLine (lines.map String.ofList) = .ok ((rows.flatMap (rowAddresses responding)).map hexAddress) := by
  induction grid with
  | nil => rfl
  | @row high rows cells lines line low fresh printed shown rest ih =>
      obtain ⟨kept, row, cells_⟩ := printed.recognised low
      have found : i2cLine (String.ofList line) = .ok ((rowAddresses responding high).map hexAddress) := by
        rw [← String.toList_ofList (l := line)] at row
        rw [i2cLine_row row, cells_, (rowDigit high low).1, Nat.add_sub_cancel_left, shown.addresses]
      rw [List.map_cons, List.flatMap_cons, List.map_append]
      exact collect_cons_eq_ok.mpr ⟨_, _, found, ih, rfl⟩
  | @other rows lines line noRow rest ih =>
      have nothing : i2cLine (String.ofList line) = .ok [] := by
        apply i2cLine_other
        rw [String.toList_ofList]
        exact noRow
      rw [List.map_cons]
      exact collect_cons_eq_ok.mpr ⟨_, _, nothing, ih, rfl⟩

/-- An address lies in its row. -/
theorem mem_rowAddresses {high address : ℕ} :
    address ∈ rowAddresses responding high ↔ address / 16 = high ∧ responding address = true := by
  unfold rowAddresses
  rw [List.mem_filter, List.mem_map]
  constructor
  · rintro ⟨⟨col, inside, rfl⟩, answers⟩
    have below := List.mem_range.mp inside
    exact ⟨by omega, answers⟩
  · rintro ⟨rfl, answers⟩
    exact ⟨⟨address % 16, List.mem_range.mpr (Nat.mod_lt _ (by decide)), Nat.div_add_mod' address 16⟩, answers⟩

theorem rowAddresses_nodup (high : ℕ) : (rowAddresses responding high).Nodup :=
  (List.nodup_range.map fun _ _ same => Nat.add_left_cancel same).filter _

theorem PrintedGrid.nodup {rows : List ℕ} {lines : List (List Char)} (grid : PrintedGrid responding rows lines) :
    (rows.flatMap (rowAddresses responding)).Nodup ∧ ∀ address ∈ rows.flatMap (rowAddresses responding), address < 128 := by
  induction grid with
  | nil => exact ⟨List.nodup_nil, fun _ member => nomatch member⟩
  | @row high rows cells lines line low fresh printed shown rest ih =>
      rw [List.flatMap_cons]
      refine ⟨(rowAddresses_nodup high).append ih.1 fun address here there => ?_, fun address member => ?_⟩
      · obtain ⟨high', other, there⟩ := List.mem_flatMap.mp there
        have same := (mem_rowAddresses.mp here).1.symm.trans (mem_rowAddresses.mp there).1
        exact fresh (same ▸ other)
      · rcases List.mem_append.mp member with here | there
        · have inside := (mem_rowAddresses.mp here).1
          omega
        · exact ih.2 address there
  | other noRow rest ih => exact ih

/-- Seven-bit addresses are told apart. -/
theorem hexAddress_inj {address address' : ℕ} (below : address < 128) (below' : address' < 128)
    (same : hexAddress address = hexAddress address') : address = address' := by
  have back : ∀ n < 128,
      ((hexAddress n).toList.drop 2).foldl (fun value c => 16 * value + (hexValue? c).getD 0) 0 = n := by
    decide +kernel
  rw [← back address below, same, back address' below']

end Grid

section Anything

theorem cellAddresses_below {high : ℕ} (low : high < 8) (cells : List (List Char)) (col : ℕ) :
    ∀ address ∈ cellAddresses high col cells, ∃ n < 0x80, address = hexAddress n := by
  induction cells generalizing col with
  | nil => exact fun _ member => nomatch member
  | cons cell cells ih =>
      intro address member
      rw [cellAddresses] at member
      split_ifs at member with full answers
      · exact nomatch member
      · rcases List.mem_cons.mp member with rfl | later
        · exact ⟨high * 16 + col, by omega, rfl⟩
        · exact ih (col + 1) address later
      · exact ih (col + 1) address member

theorem i2cLine_below {line : String} {found : List String} (read : i2cLine line = .ok found) :
    ∀ address ∈ found, ∃ n < 0x80, address = hexAddress n := by
  cases row : i2cRow? (trim isSpace line.toList) with
  | none =>
      rw [i2cLine_other row] at read
      obtain rfl := Except.ok.inj read
      exact fun _ member => nomatch member
  | some pair =>
      obtain ⟨low, high⟩ := i2cRow?_digit row
      rw [i2cLine_row row] at read
      obtain rfl := Except.ok.inj read
      exact cellAddresses_below (by omega) _ 0

theorem parseI2c_below {output : String} {addresses : List String} (read : parseI2c output = .ok addresses) :
    ∀ address ∈ addresses, ∃ n < 0x80, address = hexAddress n :=
  collect_holds (fun _ _ => i2cLine_below) read

end Anything

/-- **What a scan is read as.** -/
theorem scan_decoded {rows : List ℕ} {lines : List (List Char)} {text output : List Char}
    (grid : PrintedGrid responding rows lines) (printed : PrintedLines lines text) (coloured : Coloured text output) :
    (parseI2c (String.ofList output) = .ok ((rows.flatMap (rowAddresses responding)).map hexAddress) ∧
      ((rows.flatMap (rowAddresses responding)).map hexAddress).Nodup) ∧
    ∀ anything addresses, parseI2c anything = .ok addresses →
      ∀ address ∈ addresses, ∃ n < 0x80, address = hexAddress n := by
  obtain ⟨nodup, below⟩ := grid.nodup
  refine ⟨⟨?_, ?_⟩, fun anything addresses read => parseI2c_below read⟩
  · unfold parseI2c splitlines stripAnsi
    rw [String.toList_ofList, String.toList_ofList, coloured_iff.mp coloured, printed.linesFrom]
    exact grid.collect
  · exact nodup.map_on fun address member address' member' same =>
      hexAddress_inj (below address member) (below address' member') same

/-- Cells with single spaces between them. -/
theorem printedCells_spaces {cells : List (List Char)} (some_ : cells ≠ [])
    (words_ : ∀ cell ∈ cells, IsWord isSpace cell) : PrintedCells cells ([' '].intercalate cells) := by
  have blank : Blank isSpace [' '] := fun _ member => List.mem_singleton.mp member ▸ rfl
  induction cells with
  | nil => exact absurd rfl some_
  | cons cell cells ih =>
      have first := words_ cell (List.mem_cons_self ..)
      by_cases last : cells = []
      · have nothing : Blank isSpace [] := fun _ member => nomatch member
        have alone := PrintedCells.last first nothing
        rw [List.append_nil] at alone
        rwa [last, List.intercalate_singleton]
      · rw [List.intercalate_cons_of_ne_nil last]
        exact .cons first blank (List.cons_ne_nil _ _)
          (ih last fun other member => words_ other (List.mem_cons_of_mem _ member))

/-- The cells of row 6 with one device, at column 8. -/
def deviceCells : List (List Char) :=
  List.replicate 8 ['-'] ++ ['6', '8'] :: List.replicate 7 ['-']

def deviceRow : List Char := '6' :: ([' '] ++ '|' :: ([' '] ++ [' '].intercalate deviceCells))

/-- The grid with a header, and with its device in green. -/
def deviceScan : List Char :=
  "  | 0 1 2 3\n6 | - - - - - - - - ".toList ++ escape :: "[32m68".toList ++ escape :: "[0m - - - - - - -".toList

theorem scan_decoded_device : parseI2c (String.ofList deviceScan) = .ok ["0x68"] := by
  have cells : ∀ cell ∈ deviceCells, IsWord isSpace cell := by
    have check : deviceCells.all (fun cell => !cell.isEmpty && cell.all fun c => !isSpace c) = true := by decide
    exact fun cell member => isWord_of_check (List.all_eq_true.mp check cell member)
  have row : PrintedRow 6 deviceCells deviceRow :=
    ⟨[], [' '], [' '], _, by decide, by decide, by decide, printedCells_spaces (by decide) cells, rfl⟩
  have shown : Shows (fun address => address == 0x68) 6 deviceCells := by
    have each : ∀ col < 16, deviceCells.getD col [] = ['-'] ↔ (6 * 16 + col == 0x68) = false := by decide
    refine ⟨by decide, fun col inside cell found => ?_⟩
    rw [← each col inside, List.getD_eq_getElem?_getD, found]
    rfl
  have grid : PrintedGrid (fun address => address == 0x68) [6] ["  | 0 1 2 3".toList, deviceRow] :=
    .other (by decide +kernel) (.row (by decide) (by decide) row shown .nil)
  have printed : PrintedLines ["  | 0 1 2 3".toList, deviceRow] ("  | 0 1 2 3".toList ++ (['\n'] ++ deviceRow)) :=
    .line (by decide +kernel) (@IsLineBreak.single '\n' rfl (by decide)) (.last (by decide +kernel) (List.cons_ne_nil _ _))
  have coloured : Coloured ("  | 0 1 2 3".toList ++ (['\n'] ++ deviceRow)) deviceScan :=
    coloured_iff.mpr (by decide +kernel)
  exact (scan_decoded grid printed coloured).1.1

end CliTyped

end FlipperMcp
