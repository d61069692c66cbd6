import FlipperMcp.Python.Trailing

/-! # Printed lines

Lines printed one after another are the lines the text is split into
(`PrintedLines.linesFrom`).
-/

namespace Python

/-- What ends a line. A carriage return alone is left out: it would join a line feed. -/
inductive IsLineBreak : List Char → Prop
  | pair : IsLineBreak ['\r', '\n']
  | single {c : Char} (ends : isLineEnd c = true) (other : c ≠ '\r') : IsLineBreak [c]

/-- A text without the end of a line. -/
def OneLine (text : List Char) : Prop := ∀ c ∈ text, isLineEnd c = false

instance (text : List Char) : Decidable (OneLine text) :=
  List.decidableBAll (fun c => isLineEnd c = false) text

/-- Lines printed one after another. The last one need not be ended. -/
inductive PrintedLines : List (List Char) → List Char → Prop
  | nil : PrintedLines [] []
  | last {line : List Char} (one : OneLine line) (some_ : line ≠ []) : PrintedLines [line] line
  | line {line ending text : List Char} {lines : List (List Char)} (one : OneLine line)
      (ends : IsLineBreak ending) (rest : PrintedLines lines text) :
      PrintedLines (line :: lines) (line ++ (ending ++ text))

theorem OneLine.append {text more : List Char} (one : OneLine text) (other : OneLine more) :
    OneLine (text ++ more) := fun c member =>
  (List.mem_append.mp member).elim (one c) (other c)

theorem linesFrom_oneLine {text : List Char} (one : OneLine text) (line rest : List Char) :
    linesFrom line (text ++ rest) = linesFrom (line ++ text) rest := by
  induction text generalizing line with
  | nil => rw [List.nil_append, List.append_nil]
  | cons c text ih =>
      rw [List.cons_append, linesFrom_cons_plain (one c (List.mem_cons_self ..)),
        ih fun d member => one d (List.mem_cons_of_mem _ member), List.append_assoc,
        List.singleton_append]

theorem IsLineBreak.linesFrom {ending : List Char} (ends : IsLineBreak ending)
    (line rest : List Char) :
    linesFrom line (ending ++ rest) = line :: Python.linesFrom [] rest := by
  cases ends with
  | pair =>
      change Python.linesFrom line ('\r' :: '\n' :: rest) = _
      rw [Python.linesFrom]
  | single ends other => exact linesFrom_cons_end ends line rest fun _ same => absurd same other

/-- **The lines of a printed text.** -/
theorem PrintedLines.linesFrom {lines : List (List Char)} {text : List Char}
    (printed : PrintedLines lines text) : linesFrom [] text = lines := by
  induction printed with
  | nil => rfl
  | last one some_ => exact linesFrom_plain one [] some_
  | line one ends _ ih => rw [linesFrom_oneLine one, List.nil_append, ends.linesFrom, ih]

end Python
