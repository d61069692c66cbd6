import FlipperMcp.Python.Text
import Mathlib.Tactic.SplitIfs

/-! # A trailing space

A space behind the last line of a text passes through decoding, splitting into lines and
replacing, and is stripped in the end.
-/

namespace Python

section Decode

variable {byte : UInt8}

theorem continued_concat (ranges : List (UInt8 × UInt8)) (bytes : List UInt8)
    (below : ∀ range ∈ ranges, byte < range.1) :
    continued ranges (bytes ++ [byte]) = continued ranges bytes := by
  induction ranges generalizing bytes with
  | nil => cases bytes <;> rfl
  | cons range ranges ih =>
      obtain ⟨low, high⟩ := range
      cases bytes with
      | nil =>
          have outside : ¬ low ≤ byte := UInt8.not_le.mpr (below _ (List.mem_cons_self ..))
          simp only [List.nil_append, continued, outside, false_and, ↓reduceIte]
      | cons first bytes =>
          have rest := ih bytes fun range member => below range (List.mem_cons_of_mem _ member)
          simp only [List.cons_append, continued, rest]

theorem continued_le (ranges : List (UInt8 × UInt8)) (bytes : List UInt8) :
    continued ranges bytes ≤ bytes.length := by
  induction ranges generalizing bytes with
  | nil => cases bytes <;> exact Nat.zero_le _
  | cons range ranges ih =>
      obtain ⟨low, high⟩ := range
      cases bytes with
      | nil => exact Nat.zero_le _
      | cons first bytes =>
          unfold continued
          by_cases inside : low ≤ first ∧ first ≤ high
          · rw [if_pos inside]
            exact Nat.succ_le_succ (ih bytes)
          · rw [if_neg inside]
            exact Nat.zero_le _

theorem continuations_ge (lead : UInt8) : ∀ range ∈ continuations lead, 0x80 ≤ range.1 := by
  unfold continuations
  split_ifs <;> simp

/-- An ASCII byte behind the others is a character of its own. -/
theorem decodeFrom_concat {c : Char} (ascii : byte < 0x80) (single : decodeFrom 0 [byte] = [c])
    (skip : ℕ) (raw : List UInt8) (inside : skip ≤ raw.length) :
    decodeFrom skip (raw ++ [byte]) = decodeFrom skip raw ++ [c] := by
  induction raw generalizing skip with
  | nil =>
      obtain rfl := Nat.le_zero.mp inside
      exact single
  | cons lead rest ih =>
      cases skip with
      | succ skip => exact ih skip (Nat.le_of_succ_le_succ inside)
      | zero =>
          have same : continued (continuations lead) (rest ++ [byte]) =
              continued (continuations lead) rest :=
            continued_concat _ _ fun range member =>
              UInt8.lt_of_lt_of_le ascii (continuations_ge lead range member)
          have bounded := continued_le (continuations lead) rest
          simp only [List.cons_append, decodeFrom, same, List.take_append_of_le_length bounded,
            ih _ bounded]

end Decode

section Lines

theorem linesFrom_cons_plain {c : Char} (plain : isLineEnd c = false) (line rest : List Char) :
    linesFrom line (c :: rest) = linesFrom (line ++ [c]) rest := by
  have other : c ≠ '\r' := by
    rintro rfl
    exact nomatch plain
  rw [linesFrom]
  · simp only [plain, Bool.false_eq_true, ↓reduceIte]
  · exact fun _ same => absurd same other

theorem linesFrom_cons_end {c : Char} (ends : isLineEnd c = true) (line rest : List Char)
    (single : ∀ rest', c = '\r' → rest ≠ '\n' :: rest') :
    linesFrom line (c :: rest) = line :: linesFrom [] rest := by
  rw [linesFrom]
  · simp only [ends, ↓reduceIte]
  · exact fun rest' same => single rest' same

theorem linesFrom_plain {more : List Char} (plain : ∀ c ∈ more, isLineEnd c = false)
    (line : List Char) (some_ : line ++ more ≠ []) : linesFrom line more = [line ++ more] := by
  induction more generalizing line with
  | nil =>
      rw [List.append_nil] at some_ ⊢
      simp only [linesFrom, some_, ↓reduceIte]
  | cons c more ih =>
      rw [linesFrom_cons_plain (plain c (List.mem_cons_self ..)), List.append_cons line c more]
      exact ih (fun c' member => plain c' (List.mem_cons_of_mem _ member)) _
        (List.append_ne_nil_of_left_ne_nil (List.append_ne_nil_of_right_ne_nil _ (List.cons_ne_nil c [])) _)

/-- What ends no line stays behind the last line. -/
theorem linesFrom_append (line text : List Char) :
    ∃ lines last, ∀ more : List Char, more ≠ [] → (∀ c ∈ more, isLineEnd c = false) →
      linesFrom line (text ++ more) = lines ++ [last ++ more] := by
  fun_induction linesFrom line text with
  | case1 =>
      refine ⟨[], [], fun more some_ plain => ?_⟩
      exact linesFrom_plain plain _ (List.append_ne_nil_of_right_ne_nil _ some_)
  | case2 line =>
      refine ⟨[], line, fun more some_ plain => ?_⟩
      exact linesFrom_plain plain _ (List.append_ne_nil_of_right_ne_nil _ some_)
  | case3 line rest ih =>
      obtain ⟨lines, last, same⟩ := ih
      refine ⟨line :: lines, last, fun more some_ plain => ?_⟩
      rw [List.cons_append, List.cons_append, linesFrom, same more some_ plain, List.cons_append]
  | case4 line c rest pair ends ih =>
      obtain ⟨lines, last, same⟩ := ih
      refine ⟨line :: lines, last, fun more some_ plain => ?_⟩
      have single : ∀ rest', c = '\r' → rest ++ more ≠ '\n' :: rest' := by
        intro rest' carriage follows
        cases rest with
        | nil =>
            obtain rfl : more = '\n' :: rest' := follows
            exact nomatch plain '\n' (List.mem_cons_self ..)
        | cons first rest =>
            obtain ⟨rfl, _⟩ := List.cons.inj follows
            exact pair rest carriage rfl
      rw [List.cons_append, linesFrom_cons_end ends _ _ single, same more some_ plain,
        List.cons_append]
  | case5 line c rest pair plain_ ih =>
      obtain ⟨lines, last, same⟩ := ih
      refine ⟨lines, last, fun more some_ plain => ?_⟩
      rw [List.cons_append, linesFrom_cons_plain (Bool.not_eq_true _ ▸ plain_),
        same more some_ plain]

theorem intercalate_concat (lines : List (List Char)) (last : List Char) :
    ("\n".intercalate ((lines ++ [last ++ [' ']]).map String.ofList)).toList =
      ("\n".intercalate ((lines ++ [last]).map String.ofList)).toList ++ [' '] := by
  cases lines with
  | nil =>
      simp only [List.nil_append, List.map_cons, List.map_nil, String.intercalate_singleton,
        String.toList_ofList]
  | cons first lines =>
      have behind : ∀ last, "\n".intercalate ((first :: lines ++ [last]).map String.ofList) =
          "\n".intercalate ((first :: lines).map String.ofList) ++ "\n" ++ String.ofList last := by
        intro last
        rw [List.map_append, List.map_singleton]
        exact (String.intercalate_append_of_ne_nil (List.cons_ne_nil _ _) (List.cons_ne_nil _ _)).trans
          (by rw [String.intercalate_singleton, List.map_cons])
      simp only [behind, String.toList_append, String.toList_ofList, List.append_assoc]

end Lines

section Strip

/-- `strip` removes a space at the end. -/
theorem strip_concat (text : List Char) :
    strip (String.ofList (text ++ [' '])) = strip (String.ofList text) := by
  unfold strip
  rw [String.toList_ofList, String.toList_ofList, List.dropWhile_append]
  by_cases blank : (text.dropWhile isSpace).isEmpty = true
  · have nothing := List.isEmpty_iff.mp blank
    rw [if_pos blank, nothing]
    rfl
  · rw [if_neg blank, List.reverse_append]
    rfl

/-- What has been stripped ends with no space. -/
theorem strip_ne_concat (text : String) (front : List Char) :
    (strip text).toList ≠ front ++ [' '] := by
  intro ends
  have first := congrArg List.reverse ends
  unfold strip at first
  rw [String.toList_ofList, List.reverse_reverse, List.reverse_append] at first
  have kept := List.head?_dropWhile_not isSpace (text.toList.dropWhile isSpace).reverse
  rw [first] at kept
  exact nomatch kept

/-- A part that ends with no space is not found across one at the end. -/
theorem contains_concat {part : String} (ends : ∀ front, part.toList ≠ front ++ [' '])
    (text : List Char) : contains part (String.ofList (text ++ [' '])) =
      contains part (String.ofList text) := by
  unfold contains
  rw [String.toList_ofList, String.toList_ofList, decide_eq_decide, List.infix_concat_iff,
    List.suffix_concat_iff]
  constructor
  · rintro ((empty | ⟨front, same, _⟩) | inside)
    · rw [empty]
      exact List.nil_infix
    · exact absurd same (ends front)
    · exact inside
  · exact .inr

end Strip

section Replace

theorem replaceFrom_concat (skip : ℕ) (text : List Char) (inside : skip ≤ text.length) :
    replaceFrom ['>', ':'] [] skip (text ++ [' ']) = replaceFrom ['>', ':'] [] skip text ++ [' '] := by
  induction text generalizing skip with
  | nil =>
      obtain rfl := Nat.le_zero.mp inside
      rfl
  | cons c rest ih =>
      cases skip with
      | succ skip => exact ih skip (Nat.le_of_succ_le_succ inside)
      | zero =>
          by_cases found : ['>', ':'] <+: c :: rest
          · have longer : ['>', ':'] <+: c :: (rest ++ [' ']) := found.trans ⟨[' '], rfl⟩
            have one : 1 ≤ rest.length := Nat.le_of_succ_le_succ found.length_le
            simp only [List.cons_append, replaceFrom, found, longer, ↓reduceIte, List.nil_append,
              List.length_cons, List.length_nil]
            exact ih 1 one
          · have absent : ¬ ['>', ':'] <+: c :: (rest ++ [' ']) := by
              rintro longer
              obtain ⟨rfl, colon⟩ := List.cons_prefix_cons.mp longer
              cases rest with
              | nil => exact nomatch (List.cons_prefix_cons.mp colon).1
              | cons d rest =>
                  obtain ⟨rfl, _⟩ := List.cons_prefix_cons.mp colon
                  exact found ⟨rest, rfl⟩
            simp only [List.cons_append, replaceFrom, found, absent, ↓reduceIte]
            rw [ih 0 (Nat.zero_le _)]

/-- Replacing prompts and stripping is the same without a space at the end. -/
theorem strip_replace_concat {text longer : String} (same : longer.toList = text.toList ++ [' ']) :
    strip (replace ">:" "" longer) = strip (replace ">:" "" text) := by
  have replaced : replaceFrom ">:".toList "".toList 0 longer.toList =
      replaceFrom ">:".toList "".toList 0 text.toList ++ [' '] := by
    rw [same]
    exact replaceFrom_concat 0 text.toList (Nat.zero_le _)
  unfold replace
  rw [replaced, strip_concat]

end Replace

end Python
