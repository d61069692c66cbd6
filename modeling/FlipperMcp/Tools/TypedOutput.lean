import FlipperMcp.Tools.StorageTree

/-! # Which outputs the typed parsers read

`_parse_free` hands `int` what `str.isdigit` accepts, which is more than `int` takes.
`_parse_tree` hands it decimal digits, but any number of them. The other two parsers read
every output (`typed_parsers_iff`).
-/

namespace FlipperMcp

open Coroutine Lexical Python Tools

namespace CliTyped

/-- A token of digits in a line of `free` has decimal digits only, and not too many. -/
def FreeNumber (line : List Char) : Prop :=
  ∀ key value, partition? line = some (key, value) → isDigitText (freeToken value) = true →
    (∀ c ∈ freeToken value, isDecimal c = true) ∧ (freeToken value).length ≤ maxStrDigits

/-- The size in a row of a storage tree has not too many digits. -/
def TreeNumber (line : List Char) : Prop :=
  ∀ kind path digits, treeRow? (trim isSpace (stripFrom 0 line)) = some (kind, path, some digits) →
    digits.length ≤ maxStrDigits

/-- `int` takes the numbers of an output. -/
structure Convertible (output : String) : Prop where
  free : ∀ line ∈ splitlines (stripAnsi output), FreeNumber line.toList
  tree : ∀ line ∈ splitlines output, TreeNumber line.toList

section Parsers

theorem converted_int_iff {digits : List Char} : (∃ n, converted (int digits) = .ok n) ↔
    digits ≠ [] ∧ (∀ c ∈ digits, isDecimal c = true) ∧ digits.length ≤ maxStrDigits := by
  rw [← int_ok_iff]
  cases int digits with
  | error text => exact iff_of_false (fun ⟨_, taken⟩ => nomatch taken) fun ⟨_, taken⟩ => nomatch taken
  | ok n => exact iff_of_true ⟨n, rfl⟩ ⟨n, rfl⟩

variable (lower : String → String)

/-- Whether a line of `free` is read does not depend on the lines before. -/
theorem freeLine_returns_iff (heap : List (String × ℕ)) (line : String) :
    (∃ heap', freeLine lower heap line = .ok heap') ↔ FreeNumber line.toList := by
  unfold freeLine FreeNumber
  cases field : partition? line.toList with
  | none => exact iff_of_true ⟨heap, rfl⟩ fun _ _ same => nomatch same
  | some pair =>
      obtain ⟨key, value⟩ := pair
      dsimp only
      by_cases digits : isDigitText (freeToken value) = true
      · rw [if_pos digits]
        have some_ : freeToken value ≠ [] := by
          intro empty
          rw [empty] at digits
          exact nomatch digits
        have taken := @converted_int_iff (freeToken value)
        constructor
        · rintro ⟨heap', read⟩ key' value' same -
          obtain ⟨rfl, rfl⟩ := Prod.mk.inj (Option.some.inj same)
          cases number : converted (int (freeToken value)) with
          | error e =>
              rw [number] at read
              exact nomatch read
          | ok n => exact (taken.mp ⟨n, number⟩).2
        · intro plain
          obtain ⟨n, number⟩ := taken.mpr ⟨some_, plain key value rfl digits⟩
          rw [number]
          exact ⟨_, rfl⟩
      · rw [if_neg digits]
        refine iff_of_true ⟨heap, rfl⟩ fun key' value' same digits' => ?_
        obtain ⟨rfl, rfl⟩ := Prod.mk.inj (Option.some.inj same)
        exact absurd digits' digits

theorem foldlM_returns_iff {α β : Type} {step : β → α → Except Exn β} {Reads : α → Prop}
    (reads : ∀ state item, (∃ state', step state item = .ok state') ↔ Reads item) (items : List α) (state : β) :
    (∃ state', items.foldlM step state = .ok state') ↔ ∀ item ∈ items, Reads item := by
  induction items generalizing state with
  | nil => exact iff_of_true ⟨state, rfl⟩ fun _ member => nomatch member
  | cons item items ih =>
      rw [List.foldlM_cons, List.forall_mem_cons, ← reads state item]
      cases stepped : step state item with
      | error e =>
          exact iff_of_false (fun ⟨_, read⟩ => nomatch read) fun ⟨⟨_, read⟩, _⟩ => nomatch read
      | ok state' =>
          exact (ih state').trans ⟨fun later => ⟨⟨state', rfl⟩, later⟩, fun both => both.2⟩

theorem parseFree_returns_iff (output : String) : (∃ heap, parseFree lower output = .ok heap) ↔
    ∀ line ∈ splitlines (stripAnsi output), FreeNumber line.toList :=
  foldlM_returns_iff (freeLine_returns_iff lower) _ _

theorem pathGroup_size {text digits : List Char} (cut : (pathGroup text).2 = some digits) :
    ∃ group, IsSizeGroup digits group := by
  induction text with
  | nil => exact nomatch cut
  | cons c text ih =>
      rw [pathGroup] at cut
      cases found : sizeGroup? text with
      | some digits' =>
          rw [found] at cut
          obtain rfl := Option.some.inj cut
          exact ⟨text, sizeGroup?_eq_some.mp found⟩
      | none =>
          rw [found] at cut
          exact ih cut

/-- The size of a row is a text of decimal digits. -/
theorem treeRow?_size {line path digits : List Char} {kind : Char}
    (row : treeRow? line = some (kind, path, some digits)) :
    digits ≠ [] ∧ ∀ c ∈ digits, isDecimal c = true := by
  unfold treeRow? at row
  split at row
  · dsimp only at row
    split_ifs at row with shape
    have cut := congrArg Prod.snd (Prod.mk.inj (Option.some.inj row)).2
    obtain ⟨group, gap, -, -, some_, decimal, -⟩ := pathGroup_size cut
    exact ⟨some_, decimal⟩
  · exact nomatch row

theorem treeLine_returns_iff (line : String) :
    (∃ found, treeLine line = .ok found) ↔ TreeNumber line.toList := by
  unfold treeLine TreeNumber
  dsimp only
  cases row : treeRow? (trim isSpace (stripFrom 0 line.toList)) with
  | none => exact iff_of_true ⟨[], rfl⟩ fun _ _ _ same => absurd same.symm (Option.some_ne_none _)
  | some found =>
      obtain ⟨kind, path, size⟩ := found
      cases size with
      | none =>
          refine iff_of_true ⟨_, rfl⟩ fun kind' path' digits' same => ?_
          have size := congrArg (·.2.2) (Option.some.inj same)
          exact absurd size.symm (Option.some_ne_none _)
      | some digits =>
          obtain ⟨some_, decimal⟩ := treeRow?_size row
          have taken := @converted_int_iff digits
          dsimp only
          rw [sizeOf?]
          constructor
          · rintro ⟨found, read⟩ kind' path' digits' same
            obtain rfl := Option.some.inj (congrArg (·.2.2) (Option.some.inj same))
            cases number : converted (int digits) with
            | error e =>
                rw [number] at read
                cases read
            | ok n => exact (taken.mp ⟨n, number⟩).2.2
          · intro short
            obtain ⟨n, number⟩ := taken.mpr ⟨some_, decimal, short kind path digits rfl⟩
            rw [number]
            exact ⟨_, rfl⟩

theorem parseTree_returns_iff (output : String) : (∃ entries, parseTree output = .ok entries) ↔
    ∀ line ∈ splitlines output, TreeNumber line.toList :=
  collect_returns_iff.trans (forall₂_congr fun line _ => treeLine_returns_iff line)

/-- The digit of a scan row. -/
theorem int16_row {c : Char} (low : 48 ≤ c.toNat) (high : c.toNat ≤ 55) :
    int16 c = .ok (c.toNat - 48) := by
  have digits : ∀ n ≤ 7, hexValue? (Char.ofNat (48 + n)) = some n := by decide +kernel
  have value := digits (c.toNat - 48) (by omega)
  rw [Nat.add_sub_cancel' low, Char.ofNat_toNat] at value
  unfold int16
  rw [value]

theorem i2cRow?_digit {line cells : List Char} {digit : Char} (row : i2cRow? line = some (digit, cells)) :
    48 ≤ digit.toNat ∧ digit.toNat ≤ 55 := by
  unfold i2cRow? at row
  split at row
  · split at row
    · dsimp only at row
      split_ifs at row with shape
      obtain ⟨rfl, -⟩ := Prod.mk.inj (Option.some.inj row)
      exact ⟨shape.1, shape.2.1⟩
    · exact nomatch row
  · exact nomatch row

theorem i2cLine_row {line : String} {cells : List Char} {digit : Char}
    (row : i2cRow? (trim isSpace line.toList) = some (digit, cells)) :
    i2cLine line = .ok (cellAddresses (digit.toNat - 48) 0 (words isSpace cells)) := by
  obtain ⟨low, high⟩ := i2cRow?_digit row
  unfold i2cLine
  rw [row]
  dsimp only
  rw [int16_row low high]
  rfl

theorem i2cLine_other {line : String} (row : i2cRow? (trim isSpace line.toList) = none) :
    i2cLine line = .ok [] := by
  unfold i2cLine
  rw [row]

theorem parseI2c_returns (output : String) : ∃ addresses, parseI2c output = .ok addresses := by
  refine collect_returns_iff.mpr fun line _ => ?_
  cases row : i2cRow? (trim isSpace line.toList) with
  | none => exact ⟨_, i2cLine_other row⟩
  | some found => exact ⟨_, i2cLine_row row⟩

theorem parseLoaderList_returns (output : String) : ∃ apps, parseLoaderList output = .ok apps :=
  collect_returns_iff.mpr fun _ _ => ⟨_, rfl⟩

end Parsers

section Reports

variable (lower : String → String)

/-- None of the parsers raises. -/
structure ParsersReturn (output : String) : Prop where
  free : ∃ heap, parseFree lower output = .ok heap
  tree : ∃ entries, parseTree output = .ok entries
  i2c : ∃ addresses, parseI2c output = .ok addresses
  loaderList : ∃ apps, parseLoaderList output = .ok apps

/-- A tool answers with a dictionary that holds what the device printed. -/
def Reports (raw : Json) (result : Except Exn Json) : Prop :=
  ∃ entries, result = .ok (.dict entries) ∧ entries.lookup "raw" = some raw

/-- Each tool reports the output of its exchange as it is. -/
structure ToolsReport (output : String) : Prop where
  coreStatus : ∀ {σ : Type} (E : LinkEnv σ) (s : Host) (w : σ) (free uptime : CliExecResult),
    (run E (cliTyped "free") s w).result = .ok free → free.output = output →
    (run E (cliTyped "uptime") (run E (cliTyped "free") s w).host (run E (cliTyped "free") s w).world).result =
      .ok uptime →
    Reports (.dict [("free", .str output), ("uptime", .str uptime.output)])
      (run E (coreStatus (parsers lower)) s w).result
  fsTree : ∀ {σ : Type} (E : LinkEnv σ) (s : Host) (w : σ) (path : String) (result : CliExecResult),
    startsWith "/" path = true → (run E (cliTyped ("storage tree " ++ path)) s w).result = .ok result →
    result.output = output → Reports (.str output) (run E (fsTree (parsers lower) path) s w).result
  loaderList : ∀ {σ : Type} (E : LinkEnv σ) (s : Host) (w : σ) (result : CliExecResult),
    (run E (cliTyped "loader list") s w).result = .ok result → result.output = output →
    Reports (.str output) (run E (loaderList (parsers lower)) s w).result
  i2cScan : ∀ {σ : Type} (E : LinkEnv σ) (s : Host) (w : σ) (result : CliExecResult),
    (run E (cliTyped "i2c") s w).result = .ok result → result.output = output →
    Reports (.str output) (run E (i2cScan (parsers lower)) s w).result

variable {lower} {output : String}

theorem run_returned {α β σ : Type} {E : LinkEnv σ} {s : Host} {w : σ} {first : Link α} {value : α}
    (returned : (run E first s w).result = .ok value) (next : α → Link β) :
    (run E (first >>= next) s w).result =
      (run E (next value) (run E first s w).host (run E first s w).world).result := by
  rw [run_bind]
  simp only [returned]
  rfl

/-- A tool reports once its parser has returned. -/
theorem run_parsed {β σ : Type} (E : LinkEnv σ) (s : Host) (w : σ) {parsed : Except Exn β} {value : β}
    (returned : parsed = .ok value) (answer : β → Json) :
    (run E (Coro.ofExcept parsed >>= fun value => pure (answer value)) s w).result = .ok (answer value) := by
  rw [returned]
  rfl

theorem ParsersReturn.toolsReport (returns : ParsersReturn lower output) : ToolsReport lower output where
  coreStatus E s w free uptime ran same ran' := by
    subst same
    obtain ⟨heap, parsed⟩ := returns.free
    unfold Tools.coreStatus
    rw [run_returned ran, run_returned ran']
    exact ⟨_, run_parsed E _ _ parsed fun heap => .dict _, rfl⟩
  fsTree E s w path result starts ran same := by
    subst same
    obtain ⟨entries, parsed⟩ := returns.tree
    have rendered : (parsers lower).parseTree result.output = .ok (entries.map TreeEntry.json) := by
      change (parseTree result.output >>= _) = _
      rw [parsed]
      rfl
    unfold Tools.fsTree
    rw [if_pos starts, run_returned ran]
    exact ⟨_, run_parsed E _ _ rendered fun entries => .dict _, rfl⟩
  loaderList E s w result ran same := by
    subst same
    obtain ⟨apps, parsed⟩ := returns.loaderList
    unfold Tools.loaderList
    rw [run_returned ran]
    exact ⟨_, run_parsed E _ _ parsed fun apps => .dict _, rfl⟩
  i2cScan E s w result ran same := by
    subst same
    obtain ⟨addresses, parsed⟩ := returns.i2c
    unfold Tools.i2cScan
    rw [run_returned ran]
    exact ⟨_, run_parsed E _ _ parsed fun addresses => .dict _, rfl⟩

end Reports

/-- **Which outputs the typed tools report.** -/
theorem typed_parsers_iff (lower : String → String) (output : String) :
    ParsersReturn lower output ∧ ToolsReport lower output ↔ Convertible output := by
  constructor
  · rintro ⟨returns, -⟩
    exact ⟨(parseFree_returns_iff lower output).mp returns.free, (parseTree_returns_iff output).mp returns.tree⟩
  · intro convertible
    have returns : ParsersReturn lower output :=
      ⟨(parseFree_returns_iff lower output).mpr convertible.free,
        (parseTree_returns_iff output).mpr convertible.tree, parseI2c_returns output,
        parseLoaderList_returns output⟩
    exact ⟨returns, returns.toolsReport⟩

/-- A superscript is a digit, but no number. -/
theorem free_superscript : ¬ ∀ (lower : String → String) (output : String),
    ParsersReturn lower output ∧ ToolsReport lower output := by
  intro returns
  obtain ⟨heap, read⟩ := (returns id "Free: ²").1.free
  exact nomatch read

end CliTyped

end FlipperMcp
