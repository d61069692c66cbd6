import FlipperMcp.Python.Digits
import FlipperMcp.Tools.Registry

/-! # The parsers of the typed CLI tools

What `_strip_ansi`, `_parse_free`, `_parse_tree`, `_parse_i2c` and `_parse_loader_list` make of
the output of a command. The two regular expressions are matched against a stripped line: it
holds no line feed and does not end in a space. `str.lower` of the keys of `free` is an input.
-/

namespace FlipperMcp

open Lexical Python

namespace CliTyped

/-- A number conversion raises `ValueError`. -/
def converted : Except String ℕ → Except Exn ℕ
  | .ok value => .ok value
  | .error text => .error (.valueError text)

/-- What the lines of an output contribute, one after another. -/
def collect {α : Type} (row : String → Except Exn (List α)) (lines : List String) :
    Except Exn (List α) := do
  let found ← lines.mapM row
  pure found.flatten

theorem collect_cons_eq_ok {α : Type} {row : String → Except Exn (List α)} {line : String}
    {lines : List String} {all : List α} : collect row (line :: lines) = .ok all ↔
      ∃ found rest, row line = .ok found ∧ collect row lines = .ok rest ∧ all = found ++ rest := by
  unfold collect
  rw [List.mapM_cons]
  cases first : row line with
  | error e => exact iff_of_false (fun raised => nomatch raised) fun ⟨_, _, raised, _⟩ => nomatch raised
  | ok found =>
      cases later : lines.mapM row with
      | error e => exact iff_of_false (fun raised => nomatch raised) fun ⟨_, _, _, raised, _⟩ => nomatch raised
      | ok rest =>
          constructor
          · intro same
            exact ⟨found, rest.flatten, rfl, rfl, (Except.ok.inj same).symm⟩
          · rintro ⟨found', rest', same, same', rfl⟩
            obtain rfl := Except.ok.inj same
            obtain rfl := Except.ok.inj same'
            rfl

/-- What holds of all that a line contributes holds of all that the lines do. -/
theorem collect_holds {α : Type} {row : String → Except Exn (List α)} {holds : α → Prop}
    (each : ∀ line found, row line = .ok found → ∀ item ∈ found, holds item) {lines : List String}
    {all : List α} (read : collect row lines = .ok all) : ∀ item ∈ all, holds item := by
  induction lines generalizing all with
  | nil =>
      obtain rfl := Except.ok.inj read
      exact fun _ member => nomatch member
  | cons line lines ih =>
      obtain ⟨found, rest, first, later, rfl⟩ := collect_cons_eq_ok.mp read
      intro item member
      rcases List.mem_append.mp member with here | there
      · exact each line found first item here
      · exact ih later item there

/-- The lines are read exactly if each of them is. -/
theorem collect_returns_iff {α : Type} {row : String → Except Exn (List α)} {lines : List String} :
    (∃ all, collect row lines = .ok all) ↔ ∀ line ∈ lines, ∃ found, row line = .ok found := by
  induction lines with
  | nil => exact iff_of_true ⟨[], rfl⟩ fun _ member => nomatch member
  | cons line lines ih =>
      rw [List.forall_mem_cons, ← ih]
      constructor
      · rintro ⟨all, read⟩
        obtain ⟨found, rest, first, later, -⟩ := collect_cons_eq_ok.mp read
        exact ⟨⟨found, first⟩, rest, later⟩
      · rintro ⟨⟨found, first⟩, rest, later⟩
        exact ⟨_, collect_cons_eq_ok.mpr ⟨found, rest, first, later, rfl⟩⟩

/-! ## Colours -/

/-- The character that begins an escape sequence. -/
def escape : Char := Char.ofNat 0x1B

/-- A character of `[0-9;]`. -/
def isSgrCode (c : Char) : Bool := (48 ≤ c.toNat && c.toNat ≤ 57) || c = ';'

/-- How many characters `\[[0-9;]*m` takes in front of a text. -/
def sgrTail? : List Char → Option ℕ
  | '[' :: rest =>
      let codes := rest.takeWhile isSgrCode
      if (rest.drop codes.length).head? = some 'm' then some (codes.length + 2) else none
  | _ => none

/-- Remove the colour sequences, past the characters that belong to the last one. -/
def stripFrom : ℕ → List Char → List Char
  | _, [] => []
  | skip + 1, _ :: rest => stripFrom skip rest
  | 0, c :: rest =>
      match if c = escape then sgrTail? rest else none with
      | some length => stripFrom length rest
      | none => c :: stripFrom 0 rest

/-- `_strip_ansi(text)`. -/
def stripAnsi (text : String) : String := String.ofList (stripFrom 0 text.toList)

/-! ## `free` -/

/-- `line.partition(":")`, when there is a colon. -/
def partition? (line : List Char) : Option (List Char × List Char) :=
  if ':' ∈ line then some (line.takeWhile (· ≠ ':'), (line.dropWhile (· ≠ ':')).drop 1) else none

/-- `value.strip().split(" ", 1)[0]`. -/
def freeToken (value : List Char) : List Char := (trim isSpace value).takeWhile (· ≠ ' ')

/-- `heap[key] = value`. -/
def setField (heap : List (String × ℕ)) (key : String) (value : ℕ) : List (String × ℕ) :=
  if heap.any fun entry => entry.1 = key then
    heap.map fun entry => if entry.1 = key then (key, value) else entry
  else heap ++ [(key, value)]

section

variable (lower : String → String)

/-- `key.strip().lower().replace(" ", "_")`. -/
def freeKey (key : List Char) : String :=
  replace " " "_" (lower (strip (String.ofList key)))

/-- The body of the loop of `_parse_free`. -/
def freeLine (heap : List (String × ℕ)) (line : String) : Except Exn (List (String × ℕ)) :=
  match partition? line.toList with
  | none => .ok heap
  | some (key, value) =>
      let token := freeToken value
      if isDigitText token then do
        let size ← converted (int token)
        .ok (setField heap (freeKey lower key) size)
      else .ok heap

/-- `_parse_free(output)`. -/
def parseFree (output : String) : Except Exn (List (String × ℕ)) :=
  (splitlines (stripAnsi output)).foldlM (freeLine lower) []

end

/-! ## `storage tree` -/

/-- The group `(?:\s+(?P<size>\d+)b)?` in front of the end: its digits. -/
def sizeGroup? (rest : List Char) : Option (List Char) :=
  let gap := rest.takeWhile isSpace
  let digits := (rest.drop gap.length).takeWhile isDecimal
  if gap ≠ [] ∧ digits ≠ [] ∧ rest = gap ++ (digits ++ ['b']) then some digits else none

/-- The group `(?P<path>.+?)`, as short as the rest allows, and the size behind it. -/
def pathGroup : List Char → List Char × Option (List Char)
  | [] => ([], none)
  | c :: rest =>
      match sizeGroup? rest with
      | some digits => ([c], some digits)
      | none => (c :: (pathGroup rest).1, (pathGroup rest).2)

/-- `_TREE_LINE.match(line)`: the kind, the path and the size. -/
def treeRow? : List Char → Option (Char × List Char × Option (List Char))
  | '[' :: kind :: ']' :: rest =>
      let row := rest.dropWhile isSpace
      if (kind = 'D' ∨ kind = 'F') ∧ row ≠ rest ∧ row ≠ [] then some (kind, pathGroup row) else none
  | _ => none

/-- An entry of `_parse_tree`. -/
structure TreeEntry where
  dir : Bool
  path : List Char
  sizeBytes : Option ℕ
  depth : ℕ
  deriving DecidableEq

/-- The dictionary of an entry. -/
def TreeEntry.json (entry : TreeEntry) : Json :=
  .dict [("type", .str (if entry.dir then "dir" else "file")), ("path", .str (String.ofList entry.path)),
    ("size_bytes", entry.sizeBytes.elim .null fun size => .int size), ("depth", .int entry.depth)]

/-- `int(size) if size is not None else None`. -/
def sizeOf? : Option (List Char) → Except Exn (Option ℕ)
  | none => .ok none
  | some digits => do
      let size ← converted (int digits)
      .ok (some size)

/-- The body of the loop of `_parse_tree`. -/
def treeLine (rawLine : String) : Except Exn (List TreeEntry) :=
  let line := stripFrom 0 rawLine.toList
  match treeRow? (trim isSpace line) with
  | none => .ok []
  | some (kind, path, size) => do
      let sizeBytes ← sizeOf? size
      .ok [{ dir := kind = 'D', path, sizeBytes, depth := (line.takeWhile (· = '\t')).length }]

/-- `_parse_tree(output)`. -/
def parseTree (output : String) : Except Exn (List TreeEntry) :=
  collect treeLine (splitlines output)

/-! ## `i2c` -/

/-- `_I2C_ROW.match(line)`: the high nibble and the cells. -/
def i2cRow? : List Char → Option (Char × List Char)
  | high :: rest =>
      match rest.dropWhile isSpace with
      | '|' :: cells =>
          let cells := cells.dropWhile isSpace
          if 48 ≤ high.toNat ∧ high.toNat ≤ 55 ∧ cells ≠ [] then some (high, cells) else none
      | _ => none
  | [] => none

/-- An address as `0x..`. -/
def hexAddress (address : ℕ) : String :=
  "0x" ++ String.ofList (List.leftpad 2 '0' (Nat.toDigits 16 address))

/-- The loop over the cells of a row, from a column on. -/
def cellAddresses (high : ℕ) : ℕ → List (List Char) → List String
  | _, [] => []
  | col, cell :: cells =>
      if 16 ≤ col then []
      else if cell ≠ ['-'] then hexAddress (high * 16 + col) :: cellAddresses high (col + 1) cells
      else cellAddresses high (col + 1) cells

/-- The body of the loop of `_parse_i2c`. -/
def i2cLine (line : String) : Except Exn (List String) :=
  match i2cRow? (trim isSpace line.toList) with
  | none => .ok []
  | some (digit, cells) => do
      let high ← converted (int16 digit)
      .ok (cellAddresses high 0 (words isSpace cells))

/-- `_parse_i2c(output)`. -/
def parseI2c (output : String) : Except Exn (List String) :=
  collect i2cLine (splitlines (stripAnsi output))

/-! ## `loader list` -/

/-- The body of the loop of `_parse_loader_list`. -/
def loaderLine (line : String) : Except Exn (List String) :=
  let name := strip line
  .ok (if name ≠ "" ∧ name.toList.getLast? ≠ some ':' then [name] else [])

/-- `_parse_loader_list(output)`. -/
def parseLoaderList (output : String) : Except Exn (List String) :=
  collect loaderLine (splitlines (stripAnsi output))

/-- The parsers of the tools. -/
def parsers (lower : String → String) : Tools.CliParsers where
  stripAnsi := stripAnsi
  parseFree := parseFree lower
  parseTree output := do
    let entries ← parseTree output
    pure (entries.map TreeEntry.json)
  parseI2c := parseI2c
  parseLoaderList := parseLoaderList

end CliTyped

end FlipperMcp
