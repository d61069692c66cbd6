import FlipperMcp.Client.CliGate
import FlipperMcp.Python.Trailing
import FlipperMcp.Python.Utf8
import FlipperMcp.Python.Words

/-! # Stripping the echo and the prompt

`_strip_cli_output` drops the first line if it holds the command, and removes every prompt.
Of a response it keeps the body exactly if the body holds no prompt, the echo is one line, and
the first line of the body does not hold the command (`stripCliOutput_keeps`).
-/

namespace FlipperMcp

open Lexical Python

namespace FlipperClient

section Prompts

/-- A text without its prompts. -/
def withoutPrompts : List Char → List Char
  | '>' :: ':' :: rest => withoutPrompts rest
  | c :: rest => c :: withoutPrompts rest
  | [] => []

theorem withoutPrompts_cons {c : Char} {rest : List Char} (other : ∀ rest', c = '>' → rest ≠ ':' :: rest') :
    withoutPrompts (c :: rest) = c :: withoutPrompts rest := by
  rw [withoutPrompts]
  exact fun rest' same => other rest' same

theorem replace_prompts (text : String) :
    replace ">:" "" text = String.ofList (withoutPrompts text.toList) := by
  have from_ : ∀ text, replaceFrom ['>', ':'] [] 0 text = withoutPrompts text := by
    intro text
    fun_induction withoutPrompts text with
    | case1 rest ih =>
        have found : ['>', ':'] <+: '>' :: ':' :: rest := ⟨rest, rfl⟩
        simp only [replaceFrom, found, ↓reduceIte, List.nil_append]
        exact ih
    | case2 c rest other ih =>
        have absent : ¬ ['>', ':'] <+: c :: rest := by
          intro found
          obtain ⟨rfl, colon⟩ := List.cons_prefix_cons.mp found
          obtain ⟨rest', rfl⟩ := colon
          exact other rest' rfl rfl
        simp only [replaceFrom, absent, ↓reduceIte, ih]
    | case3 => rfl
  unfold replace
  exact congrArg String.ofList (from_ text.toList)

/-- Prompts lie on one side of another character. -/
theorem withoutPrompts_divide {c : Char} (mark : c ≠ '>') (colon : c ≠ ':') (front rest : List Char) :
    withoutPrompts (front ++ c :: rest) = withoutPrompts front ++ c :: withoutPrompts rest := by
  fun_induction withoutPrompts front with
  | case1 front ih => exact ih
  | case2 first front other ih =>
      rw [List.cons_append, withoutPrompts_cons, ih, List.cons_append]
      intro rest' begins follows
      cases front with
      | nil => exact colon (List.cons.inj follows).1
      | cons second front =>
          obtain ⟨rfl, -⟩ := List.cons.inj follows
          exact other front begins rfl
  | case3 => exact withoutPrompts_cons fun _ same => absurd same mark

theorem withoutPrompts_eq {text : List Char} (free : ¬ ['>', ':'] <:+: text) :
    withoutPrompts text = text := by
  fun_induction withoutPrompts text with
  | case1 rest _ => exact absurd ⟨[], rest, rfl⟩ free
  | case2 c rest other ih => rw [ih fun found => free (List.infix_cons found)]
  | case3 => rfl

/-- A prompt has characters that are no spaces, so removing one shows. -/
theorem letters_withoutPrompts (text : List Char) :
    letters isSpace (withoutPrompts text) ≤ letters isSpace text ∧
      (['>', ':'] <:+: text → letters isSpace (withoutPrompts text) < letters isSpace text) := by
  fun_induction withoutPrompts text with
  | case1 rest ih =>
      have two : letters isSpace ('>' :: ':' :: rest) = 2 + letters isSpace rest :=
        letters_append ['>', ':'] rest
      obtain ⟨most, -⟩ := ih
      exact ⟨by omega, fun _ => by omega⟩
  | case2 c rest other ih =>
      have first : ∀ rest, letters isSpace (c :: rest) = letters isSpace [c] + letters isSpace rest :=
        letters_append [c]
      rw [first (withoutPrompts rest), first rest]
      refine ⟨Nat.add_le_add_left ih.1 _, fun found => Nat.add_lt_add_left (ih.2 ?_) _⟩
      rcases List.infix_cons_iff.mp found with front | inside
      · obtain ⟨rfl, rest', rfl⟩ := List.cons_prefix_cons.mp front
        exact absurd rfl (other rest' rfl)
      · exact inside
  | case3 => exact ⟨Nat.le_refl _, fun found => nomatch List.infix_nil.mp found⟩

end Prompts

section Lines

variable {line rest : List Char}

/-- A line of plain characters, up to its end. -/
theorem linesFrom_line {text : List Char} (plain : ∀ c ∈ text, isLineEnd c = false) :
    linesFrom line (text ++ '\r' :: '\n' :: rest) = (line ++ text) :: linesFrom [] rest := by
  induction text generalizing line with
  | nil =>
      rw [List.nil_append, List.append_nil, linesFrom]
  | cons c text ih =>
      rw [List.cons_append, linesFrom_cons_plain (plain c (List.mem_cons_self ..)),
        ih fun d member => plain d (List.mem_cons_of_mem _ member), List.append_assoc]
      rfl

/-- The lines of a text without a carriage return, up to the end of its last line. -/
def linesOf (line text : List Char) : List (List Char) := linesFrom line (text ++ ['\r', '\n'])

theorem linesOf_nil : linesOf line [] = [line] := rfl

theorem linesOf_cons {c : Char} {text : List Char} (other : c ≠ '\r') :
    linesOf line (c :: text) =
      if isLineEnd c = true then line :: linesOf [] text else linesOf (line ++ [c]) text := by
  unfold linesOf
  by_cases ends : isLineEnd c = true
  · rw [if_pos ends, List.cons_append, linesFrom_cons_end ends _ _ fun _ same => absurd same other]
  · rw [if_neg ends, List.cons_append, linesFrom_cons_plain (Bool.eq_false_iff.mpr ends)]

/-- Its lines come first. -/
theorem linesFrom_append_lines {text : List Char} (noReturn : '\r' ∉ text) :
    linesFrom line (text ++ '\r' :: '\n' :: rest) = linesOf line text ++ linesFrom [] rest := by
  induction text generalizing line with
  | nil =>
      rw [linesOf_nil, List.nil_append, linesFrom]
      rfl
  | cons c text ih =>
      have other : c ≠ '\r' := fun same => noReturn (same ▸ List.mem_cons_self ..)
      have later : '\r' ∉ text := fun member => noReturn (List.mem_cons_of_mem _ member)
      rw [linesOf_cons other, List.cons_append]
      by_cases ends : isLineEnd c = true
      · rw [if_pos ends, linesFrom_cons_end ends _ _ fun _ same => absurd same other, ih later]
        rfl
      · rw [if_neg ends, linesFrom_cons_plain (Bool.eq_false_iff.mpr ends), ih later]

/-- What is counted on both sides of a line end is counted line by line. -/
theorem linesOf_sum {measure : List Char → ℕ}
    (divides : ∀ front c rest, isLineEnd c = true → measure (front ++ c :: rest) = measure front + measure rest)
    {text : List Char} (noReturn : '\r' ∉ text) :
    ((linesOf line text).map measure).sum = measure (line ++ text) := by
  induction text generalizing line with
  | nil => rw [linesOf_nil, List.append_nil, List.map_singleton, List.sum_singleton]
  | cons c text ih =>
      have other : c ≠ '\r' := fun same => noReturn (same ▸ List.mem_cons_self ..)
      have later : '\r' ∉ text := fun member => noReturn (List.mem_cons_of_mem _ member)
      rw [linesOf_cons other]
      by_cases ends : isLineEnd c = true
      · rw [if_pos ends, List.map_cons, List.sum_cons, ih later, divides _ _ _ ends, List.nil_append]
      · rw [if_neg ends, ih later, List.append_assoc]
        rfl

/-- The first line goes up to the first character that ends one. -/
theorem linesOf_first {text : List Char} (noReturn : '\r' ∉ text) :
    ∃ later, linesOf line text = (line ++ text.takeWhile fun c => !isLineEnd c) :: later := by
  induction text generalizing line with
  | nil => exact ⟨[], by rw [linesOf_nil, List.takeWhile_nil, List.append_nil]⟩
  | cons c text ih =>
      have other : c ≠ '\r' := fun same => noReturn (same ▸ List.mem_cons_self ..)
      have later : '\r' ∉ text := fun member => noReturn (List.mem_cons_of_mem _ member)
      rw [linesOf_cons other]
      by_cases ends : isLineEnd c = true
      · rw [if_pos ends, List.takeWhile_cons_of_neg (by rw [ends]; nofun), List.append_nil]
        exact ⟨_, rfl⟩
      · have plain := Bool.eq_false_iff.mpr ends
        rw [if_neg ends, List.takeWhile_cons_of_pos (by rw [plain]; rfl)]
        obtain ⟨rest, same⟩ := @ih (line ++ [c]) later
        rw [List.append_assoc] at same
        exact ⟨rest, same⟩

theorem isSpace_of_isLineEnd {c : Char} (ends : isLineEnd c = true) : isSpace c = true := by
  rw [isSpace_iff]
  simp only [isLineEnd, List.mem_cons, List.not_mem_nil, or_false, decide_eq_true_eq] at ends
  simp only [List.mem_cons, List.not_mem_nil, or_false]
  omega

theorem letters_divide (front : List Char) (c : Char) (rest : List Char) (ends : isLineEnd c = true) :
    letters isSpace (front ++ c :: rest) = letters isSpace front + letters isSpace rest := by
  have blank : letters isSpace [c] = 0 :=
    letters_eq_zero.mpr fun d member => List.mem_singleton.mp member ▸ isSpace_of_isLineEnd ends
  rw [letters_append, ← List.singleton_append, letters_append, blank, Nat.zero_add]

theorem withoutPrompts_lineEnd (front : List Char) {c : Char} (rest : List Char) (ends : isLineEnd c = true) :
    withoutPrompts (front ++ c :: rest) = withoutPrompts front ++ c :: withoutPrompts rest := by
  apply withoutPrompts_divide
  · intro same
    rw [same] at ends
    exact nomatch ends
  · intro same
    rw [same] at ends
    exact nomatch ends

end Lines

section Stripping

/-- A character that ends a line has nothing but spaces behind it. -/
def EndsOnce (command : String) : Prop :=
  ∀ before c after, command.toList = before ++ c :: after → isLineEnd c = true → Blank isSpace after

theorem isSpace_newline : Blank isSpace ['\n'] := fun _ member => List.mem_singleton.mp member ▸ rfl

/-- Prompts are removed line by line. -/
theorem withoutPrompts_intercalate (lines : List (List Char)) :
    withoutPrompts (['\n'].intercalate lines) = ['\n'].intercalate (lines.map withoutPrompts) := by
  induction lines with
  | nil => rfl
  | cons line lines ih =>
      by_cases last : lines = []
      · rw [last, List.map_singleton, List.intercalate_singleton, List.intercalate_singleton]
      · have some_ : lines.map withoutPrompts ≠ [] := fun none_ => last (List.map_eq_nil_iff.mp none_)
        rw [List.map_cons, List.intercalate_cons_of_ne_nil last, List.intercalate_cons_of_ne_nil some_,
          List.append_assoc, List.singleton_append, withoutPrompts_lineEnd _ _ rfl, ih, List.append_assoc,
          List.singleton_append]

/-- The lines in front of the last prompt, without the echo. -/
def keptLines (command : String) : List (List Char) → List (List Char)
  | first :: rest => if trim isSpace command.toList <:+: first then rest else first :: rest
  | [] => []

/-- What is made of the lines of a response that ends in a prompt. -/
theorem stripCliOutput_lines (command : String) {text first : List Char} {rest : List (List Char)}
    (cut : linesFrom [] text = (first :: rest) ++ [['>', ':', ' ']]) :
    stripCliOutput (encodeText (String.ofList text)) command =
      String.ofList (trim isSpace (['\n'].intercalate ((keptLines command (first :: rest)).map withoutPrompts))) := by
  have lines : splitlines (decodeReplace (encodeText (String.ofList text))) =
      String.ofList first :: (rest ++ [['>', ':', ' ']]).map String.ofList := by
    unfold splitlines decodeReplace
    rw [encodeText_eq, decodeFrom_encode, String.toList_ofList, String.toList_ofList, cut]
    rfl
  have echo : contains (strip command) (String.ofList first) = decide (trim isSpace command.toList <:+: first) := by
    unfold contains
    rw [strip_eq, String.toList_ofList, String.toList_ofList]
  have joined : ∀ kept : List (List Char),
      strip (replace ">:" "" ("\n".intercalate ((kept ++ [['>', ':', ' ']]).map String.ofList))) =
        String.ofList (trim isSpace (['\n'].intercalate (kept.map withoutPrompts))) := by
    intro kept
    have letters_ : ((kept ++ [['>', ':', ' ']]).map String.ofList).map String.toList = kept ++ [['>', ':', ' ']] := by
      rw [List.map_map]
      exact (List.map_congr_left fun _ _ => String.toList_ofList).trans (List.map_id _)
    have blank : Blank isSpace (withoutPrompts ['>', ':', ' ']) :=
      fun _ member => List.mem_singleton.mp member ▸ rfl
    rw [replace_prompts, strip_eq, String.toList_ofList, String.toList_intercalate, letters_]
    change String.ofList (trim isSpace (withoutPrompts (['\n'].intercalate _))) = _
    rw [withoutPrompts_intercalate, List.map_append, List.map_singleton,
      trim_intercalate_concat isSpace_newline blank]
  unfold stripCliOutput
  simp only [lines, echo, decide_eq_true_eq]
  by_cases found : trim isSpace command.toList <:+: first
  · rw [if_pos found, joined, keptLines, if_pos found]
  · rw [if_neg found, keptLines, if_neg found]
    exact joined (first :: rest)

end Stripping

section Bodies

/-- The lines of a body, up to the end of the last. -/
theorem linesFrom_body {lines : List (List Char)} (some_ : lines ≠ [])
    (plain : ∀ line ∈ lines, ∀ c ∈ line, isLineEnd c = false) (rest : List Char) :
    linesFrom [] (['\r', '\n'].intercalate lines ++ '\r' :: '\n' :: rest) = lines ++ linesFrom [] rest := by
  induction lines with
  | nil => exact absurd rfl some_
  | cons line lines ih =>
      have first := plain line (List.mem_cons_self ..)
      by_cases last : lines = []
      · rw [last, List.intercalate_singleton, linesFrom_line first]
        rfl
      · have later := ih last fun other member => plain other (List.mem_cons_of_mem _ member)
        rw [List.intercalate_cons_of_ne_nil last, List.append_assoc, List.append_assoc]
        exact (linesFrom_line first).trans (congrArg (line :: ·) later)

/-- The characters of some lines. -/
def lineLetters (lines : List (List Char)) : ℕ := (lines.map (letters isSpace)).sum

theorem lineLetters_cons (line : List Char) (lines : List (List Char)) :
    lineLetters (line :: lines) = letters isSpace line + lineLetters lines :=
  rfl

theorem lineLetters_append (lines more : List (List Char)) :
    lineLetters (lines ++ more) = lineLetters lines + lineLetters more := by
  unfold lineLetters
  rw [List.map_append, List.sum_append]

theorem letters_joined (lines : List (List Char)) :
    letters isSpace (trim isSpace (['\n'].intercalate lines)) = lineLetters lines := by
  rw [letters_trim, letters_intercalate isSpace_newline]
  rfl

theorem blank_of_lineLetters {lines : List (List Char)} (none_ : lineLetters lines = 0) :
    ∀ line ∈ lines, Blank isSpace line := fun _ member =>
  letters_eq_zero.mp (List.sum_eq_zero_iff_forall_eq_nat.mp none_ _ (List.mem_map_of_mem member))

/-- Removing prompts takes characters away from the lines that hold one. -/
theorem lineLetters_withoutPrompts (lines : List (List Char)) :
    lineLetters (lines.map withoutPrompts) ≤ lineLetters lines ∧
      (lineLetters (lines.map withoutPrompts) = lineLetters lines →
        ∀ line ∈ lines, ¬ ['>', ':'] <:+: line) := by
  induction lines with
  | nil => exact ⟨Nat.le_refl _, fun _ => nofun⟩
  | cons line lines ih =>
      obtain ⟨most, less⟩ := letters_withoutPrompts line
      rw [List.map_cons, lineLetters_cons, lineLetters_cons]
      refine ⟨Nat.add_le_add most ih.1, fun same => List.forall_mem_cons.mpr ⟨fun found => ?_, ?_⟩⟩
      · have fewer := less found
        have others := ih.1
        omega
      · have others := ih.1
        exact ih.2 (by omega)

theorem map_withoutPrompts {lines : List (List Char)} (free : ∀ line ∈ lines, ¬ ['>', ':'] <:+: line) :
    lines.map withoutPrompts = lines :=
  (List.map_congr_left fun line member => withoutPrompts_eq (free line member)).trans (List.map_id _)

variable {command : String} {first : List Char} {rest : List (List Char)}

/-- Without an echo the first line of the body may be taken for it. -/
theorem keptLines_iff : trim isSpace (['\n'].intercalate
      ((keptLines command (first :: rest)).map withoutPrompts)) =
        trim isSpace (['\n'].intercalate (first :: rest)) ↔
      (∀ line ∈ first :: rest, ¬ ['>', ':'] <:+: line) ∧
        (¬ trim isSpace command.toList <:+: first ∨ Blank isSpace first) := by
  constructor
  · intro same
    have counted := congrArg (letters isSpace) same
    rw [letters_joined, letters_joined] at counted
    by_cases found : trim isSpace command.toList <:+: first
    · rw [keptLines, if_pos found, lineLetters_cons] at counted
      obtain ⟨most, free⟩ := lineLetters_withoutPrompts rest
      have empty : letters isSpace first = 0 := by omega
      refine ⟨List.forall_mem_cons.mpr ⟨fun prompt => ?_, free (by omega)⟩,
        .inr (letters_eq_zero.mp empty)⟩
      have less := (letters_withoutPrompts first).2 prompt
      omega
    · rw [keptLines, if_neg found] at counted
      exact ⟨(lineLetters_withoutPrompts _).2 counted, .inl found⟩
  · intro ⟨free, dropped⟩
    by_cases found : trim isSpace command.toList <:+: first
    · have blank := dropped.resolve_left (not_not_intro found)
      rw [keptLines, if_pos found, map_withoutPrompts fun line member => free line
        (List.mem_cons_of_mem _ member), trim_intercalate_cons isSpace_newline blank]
    · rw [keptLines, if_neg found, map_withoutPrompts free]

theorem takeWhile_prefix {p : Char → Bool} {c : Char} (stops : p c = false) (before after : List Char) :
    (before ++ c :: after).takeWhile p <+: before := by
  induction before with
  | nil => rw [List.nil_append, List.takeWhile_cons_of_neg (by rw [stops]; nofun)]
  | cons b before ih =>
      by_cases holds : p b = true
      · rw [List.cons_append, List.takeWhile_cons_of_pos holds]
        exact List.cons_prefix_cons.mpr ⟨rfl, ih⟩
      · rw [List.cons_append, List.takeWhile_cons_of_neg holds]
        exact List.nil_prefix

/-- An echo of one line holds the command, and nothing is left of it. -/
theorem echo_of_endsOnce (once : EndsOnce command) :
    trim isSpace command.toList <:+: command.toList.takeWhile (fun c => !isLineEnd c) ∧
      letters isSpace (command.toList.takeWhile fun c => !isLineEnd c) = letters isSpace command.toList := by
  have whole := List.takeWhile_append_dropWhile (p := fun c => !isLineEnd c) (l := command.toList)
  have blank : Blank isSpace (command.toList.dropWhile fun c => !isLineEnd c) := by
    cases behind : command.toList.dropWhile fun c => !isLineEnd c with
    | nil => exact nofun
    | cons c after =>
        have ends : isLineEnd c = true := by
          have stops := List.head?_dropWhile_not (fun c => !isLineEnd c) command.toList
          rw [behind] at stops
          simpa using stops
        rw [behind] at whole
        exact List.forall_mem_cons.mpr ⟨isSpace_of_isLineEnd ends, once _ c after whole.symm ends⟩
  constructor
  · obtain ⟨front, back, -, -, parts⟩ := trim_spec isSpace (command.toList.takeWhile fun c => !isLineEnd c)
    have same : trim isSpace command.toList =
        trim isSpace (command.toList.takeWhile fun c => !isLineEnd c) := by
      conv_lhs => rw [← whole]
      exact trim_append_blank blank _
    rw [same]
    exact ⟨front, back, parts.symm⟩
  · conv_rhs => rw [← whole]
    rw [letters_append, letters_eq_zero.mpr blank, Nat.add_zero]

/-- An echo of several lines does not hold the command in the first. -/
theorem echo_of_not_endsOnce (several : ¬ EndsOnce command) :
    ¬ trim isSpace command.toList <:+: command.toList.takeWhile fun c => !isLineEnd c := by
  unfold EndsOnce at several
  push Not at several
  obtain ⟨before, c, after, whole, ends, more⟩ := several
  intro found
  have short := takeWhile_prefix (p := fun c => !isLineEnd c) (c := c) (by rw [ends]; rfl) before after
  rw [← whole] at short
  have least : letters isSpace (trim isSpace command.toList) ≤
      letters isSpace (command.toList.takeWhile fun c => !isLineEnd c) := found.sublist.countP_le
  have most : letters isSpace (command.toList.takeWhile fun c => !isLineEnd c) ≤ letters isSpace before :=
    short.sublist.countP_le
  have total := letters_divide before c after ends
  rw [← whole] at total
  rw [letters_trim] at least
  have some_ : letters isSpace after ≠ 0 := fun none_ => more (letters_eq_zero.mp none_)
  omega

/-- With an echo a body without prompts is kept if the echo is one line, or goes with its prompts. -/
theorem keptLines_echo_iff (noReturn : '\r' ∉ command.toList)
    (free : ∀ line ∈ rest, ¬ ['>', ':'] <:+: line) :
    trim isSpace (['\n'].intercalate
        ((keptLines command (linesOf [] command.toList ++ rest)).map withoutPrompts)) =
      trim isSpace (['\n'].intercalate rest) ↔
    EndsOnce command ∨ letters isSpace (withoutPrompts command.toList) = 0 := by
  obtain ⟨later, cut⟩ := @linesOf_first [] _ noReturn
  rw [List.nil_append] at cut
  by_cases once : EndsOnce command
  · obtain ⟨found, counted⟩ := echo_of_endsOnce once
    have total := @linesOf_sum [] _ letters_divide _ noReturn
    rw [cut, List.nil_append, List.map_cons, List.sum_cons] at total
    have blank : ∀ line ∈ later.map withoutPrompts, Blank isSpace line := by
      apply blank_of_lineLetters
      have most := (lineLetters_withoutPrompts later).1
      unfold lineLetters at most ⊢
      omega
    rw [cut, List.cons_append, keptLines, if_pos found, List.map_append,
      trim_intercalate_blanks isSpace_newline blank, map_withoutPrompts free]
    exact ⟨fun _ => .inl once, fun _ => rfl⟩
  · have missed := echo_of_not_endsOnce once
    have divides : ∀ front c rest, isLineEnd c = true →
        letters isSpace (withoutPrompts (front ++ c :: rest)) =
          letters isSpace (withoutPrompts front) + letters isSpace (withoutPrompts rest) := by
      intro front c rest ends
      rw [withoutPrompts_lineEnd front rest ends, letters_divide _ _ _ ends]
    have total := @linesOf_sum [] (fun text => letters isSpace (withoutPrompts text)) divides _ noReturn
    rw [List.nil_append] at total
    have counted : lineLetters ((linesOf [] command.toList).map withoutPrompts) =
        letters isSpace (withoutPrompts command.toList) := by
      unfold lineLetters
      rw [List.map_map]
      exact total
    have kept : keptLines command (linesOf [] command.toList ++ rest) = linesOf [] command.toList ++ rest := by
      rw [cut, List.cons_append, keptLines, if_neg missed]
    rw [kept, List.map_append, map_withoutPrompts free]
    constructor
    · intro same
      have sizes := congrArg (letters isSpace) same
      rw [letters_joined, letters_joined, lineLetters_append, counted] at sizes
      exact .inr (by omega)
    · intro either
      have none_ := either.resolve_left once
      exact trim_intercalate_blanks isSpace_newline (blank_of_lineLetters (counted.trans none_)) rest

end Bodies

/-- A command that holds nothing but prompts and spaces. -/
def OnlyPrompts (command : String) : Prop := strip (replace ">:" "" command) = ""

theorem onlyPrompts_iff {command : String} :
    OnlyPrompts command ↔ letters isSpace (withoutPrompts command.toList) = 0 := by
  unfold OnlyPrompts
  rw [← trim_eq_nil, replace_prompts, strip_eq, String.toList_ofList, ← String.toList_inj,
    String.toList_ofList]
  rfl

/-- The texts of a list of lines. -/
theorem joined_toList (gap : String) (lines : List String) :
    (gap.intercalate lines).toList = gap.toList.intercalate (lines.map String.toList) :=
  String.toList_intercalate

/-- **Echo and prompt.** For every accepted command and every body of lines without other line
ends: the response, with an echo and without, is stripped to the body with its line ends
normalised and its outer spaces trimmed, exactly if no line of the body holds a prompt, the echo
of the command is one line (or goes with its prompts), and the first line of the body does not
hold the command unless it is blank. -/
theorem stripCliOutput_keeps (command : String) (accepted : rejectShellChaining command = .ok ())
    (first : String) (rest : List String)
    (plain : ∀ line ∈ first :: rest, ∀ c ∈ line.toList, isLineEnd c = false) :
    (stripCliOutput (encodeText (command ++ "\r\n" ++ "\r\n".intercalate (first :: rest) ++ "\r\n>: "))
        command = strip ("\n".intercalate (first :: rest)) ∧
      stripCliOutput (encodeText ("\r\n".intercalate (first :: rest) ++ "\r\n>: ")) command =
        strip ("\n".intercalate (first :: rest))) ↔
    (∀ line ∈ first :: rest, contains ">:" line = false) ∧ (EndsOnce command ∨ OnlyPrompts command) ∧
      (contains (strip command) first = false ∨ Blank isSpace first.toList) := by
  have noReturn : '\r' ∉ command.toList :=
    not_mem_of_contains rfl (rejectShellChaining_ok accepted ("\r", "'\\r'") (by decide))
  have lines : ∀ line ∈ (first :: rest).map String.toList, ∀ c ∈ line, isLineEnd c = false := by
    intro line member
    obtain ⟨text, inside, rfl⟩ := List.mem_map.mp member
    exact plain text inside
  have body : linesFrom [] ("\r\n".intercalate (first :: rest) ++ "\r\n>: ").toList =
      (first :: rest).map String.toList ++ [['>', ':', ' ']] := by
    rw [String.toList_append, joined_toList]
    exact linesFrom_body (List.cons_ne_nil _ _) lines ['>', ':', ' ']
  have echoed : linesFrom [] (command ++ "\r\n" ++ "\r\n".intercalate (first :: rest) ++ "\r\n>: ").toList =
      linesOf [] command.toList ++ (first :: rest).map String.toList ++ [['>', ':', ' ']] := by
    rw [String.append_assoc, String.toList_append, String.toList_append, List.append_assoc,
      List.append_assoc, ← body]
    exact linesFrom_append_lines noReturn
  have free : (∀ line ∈ first :: rest, contains ">:" line = false) ↔
      ∀ line ∈ (first :: rest).map String.toList, ¬ ['>', ':'] <:+: line := by
    rw [List.forall_mem_map]
    exact forall₂_congr fun line _ => decide_eq_false_iff_not
  have held : contains (strip command) first = false ↔ ¬ trim isSpace command.toList <:+: first.toList := by
    unfold contains
    rw [strip_eq, String.toList_ofList, decide_eq_false_iff_not]
  have wanted : ∀ text : List Char, String.ofList text = strip ("\n".intercalate (first :: rest)) ↔
      text = trim isSpace (['\n'].intercalate ((first :: rest).map String.toList)) := by
    intro text
    rw [strip_eq, joined_toList, String.ofList_inj]
    rfl
  obtain ⟨later, cut⟩ := @linesOf_first [] _ noReturn
  have withoutEcho := stripCliOutput_lines command body
  have withEcho := stripCliOutput_lines command (echoed.trans (by rw [cut, List.cons_append]))
  rw [String.ofList_toList] at withoutEcho withEcho
  rw [withEcho, withoutEcho, wanted, wanted, free, held, onlyPrompts_iff]
  rw [← List.cons_append, ← cut]
  have bare := @keptLines_iff command first.toList (rest.map String.toList)
  constructor
  · intro ⟨echo, none_⟩
    obtain ⟨prompts, dropped⟩ := bare.mp none_
    exact ⟨prompts, (keptLines_echo_iff noReturn prompts).mp echo, dropped⟩
  · intro ⟨prompts, once, dropped⟩
    exact ⟨(keptLines_echo_iff noReturn prompts).mpr once, bare.mpr ⟨prompts, dropped⟩⟩

/-- Two lines and one command. -/
theorem stripCliOutput_keeps_listing :
    stripCliOutput (encodeText "storage list /ext\r\n[D] apps\r\n[F] a.txt 3b\r\n>: ") "storage list /ext" =
      strip "[D] apps\n[F] a.txt 3b" := by
  have once : EndsOnce "storage list /ext" := by
    intro before c after whole ends
    have plain : ("storage list /ext".toList.all fun c => !isLineEnd c) = true := by decide +kernel
    rw [whole] at plain
    have other := List.all_eq_true.mp plain c (List.mem_append_right _ (List.mem_cons_self ..))
    rw [ends] at other
    exact nomatch other
  have plain : ∀ line ∈ ["[D] apps", "[F] a.txt 3b"], ∀ c ∈ line.toList, isLineEnd c = false := by
    have checked : (["[D] apps", "[F] a.txt 3b"].all fun line => line.toList.all fun c => !isLineEnd c) =
        true := by decide +kernel
    intro line member c inside
    exact Bool.not_eq_true' _ ▸ List.all_eq_true.mp (List.all_eq_true.mp checked line member) c inside
  have kept := ((stripCliOutput_keeps "storage list /ext" (by decide +kernel) "[D] apps" ["[F] a.txt 3b"]
    plain).mpr ⟨by decide +kernel, .inl once, .inl (by decide +kernel)⟩).1
  have text : "storage list /ext\r\n[D] apps\r\n[F] a.txt 3b\r\n>: " = "storage list /ext" ++ "\r\n" ++
      "\r\n".intercalate ["[D] apps", "[F] a.txt 3b"] ++ "\r\n>: " := by decide +kernel
  have joined : "[D] apps\n[F] a.txt 3b" = "\n".intercalate ["[D] apps", "[F] a.txt 3b"] := by
    decide +kernel
  rw [text, joined]
  exact kept

/-- A prompt in the body is lost, and so is a first line that holds the command. -/
theorem stripCliOutput_loses :
    stripCliOutput (encodeText "storage read /ext/x\r\nSize: 3\r\na>:b\r\n>: ") "storage read /ext/x" ≠
        strip "Size: 3\na>:b" ∧
      stripCliOutput (encodeText "date is 2024\r\n>: ") "date" ≠ strip "date is 2024" := by
  constructor
  · decide +kernel
  · decide +kernel

end FlipperClient

end FlipperMcp
