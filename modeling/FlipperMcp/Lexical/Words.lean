import Mathlib.Algebra.Ring.Nat
import Mathlib.Data.List.Infix

/-! # The words of a text

The words of a text over any alphabet are its longest parts without a space. A space ends the
words before it and begins the words behind it (`words_append_cons`); what else is said here
follows from that.
-/

namespace Lexical

variable {α β : Type} {space : α → Bool}

/-- The words of a text. -/
def words (space : α → Bool) (text : List α) : List (List α) :=
  (text.splitOnP space).filter fun word => !word.isEmpty

/-- Not empty, and without a space. -/
structure IsWord (space : α → Bool) (word : List α) : Prop where
  some_ : word ≠ []
  plain : ∀ c ∈ word, space c = false

/-- Nothing but spaces. -/
def Blank (space : α → Bool) (text : List α) : Prop := ∀ c ∈ text, space c = true

instance (text : List α) : Decidable (Blank space text) := inferInstanceAs (Decidable (∀ c ∈ text, _))

theorem words_append_cons {c : α} (divides : space c = true) (front rest : List α) :
    words space (front ++ c :: rest) = words space front ++ words space rest := by
  unfold words
  rw [List.splitOnP_append_cons front rest divides, List.filter_append]

@[simp] theorem words_nil : words space [] = [] := rfl

theorem words_cons {c : α} (divides : space c = true) (rest : List α) :
    words space (c :: rest) = words space rest :=
  words_append_cons divides [] rest

/-- A word alone. -/
theorem IsWord.words {word : List α} (h : IsWord space word) : words space word = [word] := by
  unfold Lexical.words
  rw [List.splitOnP_eq_singleton h.plain, List.filter_cons_of_pos]
  · rfl
  · rw [List.isEmpty_eq_false_iff.mpr h.some_]
    rfl

/-- Spaces in front. -/
theorem words_blank_append {gap : List α} (blank : Blank space gap) (rest : List α) :
    words space (gap ++ rest) = words space rest := by
  induction gap with
  | nil => rfl
  | cons c gap ih =>
      rw [List.cons_append, words_cons (blank c (List.mem_cons_self ..))]
      exact ih fun d member => blank d (List.mem_cons_of_mem _ member)

/-- Spaces between. -/
theorem words_gap {gap : List α} (blank : Blank space gap) (some_ : gap ≠ []) (front rest : List α) :
    words space (front ++ gap ++ rest) = words space front ++ words space rest := by
  obtain ⟨c, gap, rfl⟩ := List.exists_cons_of_ne_nil some_
  rw [List.append_assoc, List.cons_append,
    words_append_cons (blank c (List.mem_cons_self ..)),
    words_blank_append fun d member => blank d (List.mem_cons_of_mem _ member)]

/-- Spaces behind. -/
theorem words_append_blank {gap : List α} (blank : Blank space gap) (front : List α) :
    words space (front ++ gap) = words space front := by
  by_cases some_ : gap = []
  · rw [some_, List.append_nil]
  · have between := words_gap blank some_ front []
    rwa [List.append_nil, words_nil, List.append_nil] at between

/-- A text has no space, or the words go on behind its first one. -/
theorem plain_or_split (space : α → Bool) (text : List α) :
    (∀ c ∈ text, space c = false) ∨ ∃ front c rest, text = front ++ c :: rest ∧
      (∀ d ∈ front, space d = false) ∧ space c = true := by
  induction text with
  | nil => exact .inl nofun
  | cons first text ih =>
      by_cases divides : space first = true
      · exact .inr ⟨[], first, text, rfl, nofun, divides⟩
      · have plain := Bool.eq_false_iff.mpr divides
        rcases ih with none_ | ⟨front, c, rest, rfl, before, ends⟩
        · exact .inl (List.forall_mem_cons.mpr ⟨plain, none_⟩)
        · exact .inr ⟨first :: front, c, rest, rfl, List.forall_mem_cons.mpr ⟨plain, before⟩, ends⟩

/-- A text that is not blank has a last character that is no space. -/
theorem exists_last {text : List α} (some_ : ¬ Blank space text) :
    ∃ front last back, text = front ++ last :: back ∧ space last = false ∧ Blank space back := by
  rcases plain_or_split (fun c => !space c) text.reverse with blank | ⟨back, last, front, whole, blank, solid⟩
  · refine absurd (fun c member => ?_) some_
    exact (Bool.not_eq_false' _ ▸ blank c (List.mem_reverse.mpr member))
  · refine ⟨front.reverse, last, back.reverse, ?_, Bool.not_eq_true' _ ▸ solid, fun c member => ?_⟩
    · rw [← List.reverse_reverse text, whole, List.reverse_append, List.reverse_cons, List.append_assoc,
        List.singleton_append]
    · exact Bool.not_eq_false' _ ▸ blank c (List.mem_reverse.mp member)

/-- The words of a text without a space. -/
theorem words_plain {text : List α} (plain : ∀ c ∈ text, space c = false) :
    words space text = if text = [] then [] else [text] := by
  by_cases empty : text = []
  · rw [if_pos empty, empty, words_nil]
  · rw [if_neg empty]
    exact IsWord.words ⟨empty, plain⟩

theorem isWord_of_mem {text word : List α} (member : word ∈ words space text) :
    IsWord space word := by
  induction length : text.length using Nat.strongRecOn generalizing text with
  | ind n ih =>
      rcases plain_or_split space text with plain | ⟨front, c, rest, rfl, before, divides⟩
      · rw [words_plain plain] at member
        by_cases empty : text = []
        · rw [if_pos empty] at member
          exact nomatch member
        · rw [if_neg empty] at member
          obtain rfl := List.mem_singleton.mp member
          exact ⟨empty, plain⟩
      · rw [words_append_cons divides] at member
        rw [List.length_append, List.length_cons] at length
        rcases List.mem_append.mp member with early | late
        · exact ih front.length (by omega) early rfl
        · exact ih rest.length (by omega) late rfl

/-- Translating a text letter by letter, spaces to spaces, translates its words. -/
theorem words_flatMap {space' : β → Bool} {f : α → List β}
    (spaces : ∀ c, space c = true → ∃ d, f c = [d] ∧ space' d = true)
    (letters : ∀ c, space c = false → IsWord space' (f c)) (text : List α) :
    words space' (text.flatMap f) = (words space text).map fun word => word.flatMap f := by
  have plainly : ∀ {part : List α}, (∀ c ∈ part, space c = false) →
      words space' (part.flatMap f) = (words space part).map fun word => word.flatMap f := by
    intro part plain
    rw [words_plain plain, words_plain]
    · by_cases empty : part = []
      · rw [if_pos empty, empty]
        rfl
      · obtain ⟨c, part, rfl⟩ := List.exists_cons_of_ne_nil empty
        have kept := (letters c (plain c (List.mem_cons_self ..))).some_
        rw [if_neg empty, if_neg]
        · rfl
        · rw [List.flatMap_cons]
          exact List.append_ne_nil_of_left_ne_nil kept _
    · intro d member
      obtain ⟨c, inside, part⟩ := List.mem_flatMap.mp member
      exact (letters c (plain c inside)).plain d part
  induction length : text.length using Nat.strongRecOn generalizing text with
  | ind n ih =>
      rcases plain_or_split space text with plain | ⟨front, c, rest, rfl, before, divides⟩
      · exact plainly plain
      · obtain ⟨d, alone, divides'⟩ := spaces c divides
        rw [List.length_append, List.length_cons] at length
        rw [List.flatMap_append, List.flatMap_cons, alone, List.singleton_append,
          words_append_cons divides', words_append_cons divides, List.map_append, plainly before,
          ih rest.length (by omega) rest rfl]

/-- The words of words with spaces between them. -/
theorem words_intercalate {gap : List α} (blank : Blank space gap) (some_ : gap ≠ [])
    {parts : List (List α)} (plain : ∀ word ∈ parts, IsWord space word) :
    words space (gap.intercalate parts) = parts := by
  induction parts with
  | nil => exact words_nil
  | cons word parts ih =>
      have first := (plain word (List.mem_cons_self ..)).words
      have others : ∀ word ∈ parts, IsWord space word :=
        fun other member => plain other (List.mem_cons_of_mem _ member)
      by_cases last : parts = []
      · rw [last, List.intercalate_singleton]
        exact first
      · rw [List.intercalate_cons_of_ne_nil last, words_gap blank some_, first, ih others]
        rfl

section Trimming

/-- What is left when the spaces in front are dropped. -/
theorem dropWhile_blank (space : α → Bool) (text : List α) :
    ∃ gap, Blank space gap ∧ text = gap ++ text.dropWhile space := by
  refine ⟨text.takeWhile space, fun c member => ?_, (List.takeWhile_append_dropWhile).symm⟩
  exact List.all_eq_true.mp List.all_takeWhile c member

/-- Drop the spaces at both ends. -/
def trim (space : α → Bool) (text : List α) : List α :=
  ((text.dropWhile space).reverse.dropWhile space).reverse

theorem trim_spec (space : α → Bool) (text : List α) :
    ∃ front back, Blank space front ∧ Blank space back ∧ text = front ++ trim space text ++ back := by
  obtain ⟨front, blank, left⟩ := dropWhile_blank space text
  obtain ⟨back, blank', right⟩ := dropWhile_blank space (text.dropWhile space).reverse
  refine ⟨front, back.reverse, blank, fun c member => blank' c (List.mem_reverse.mp member), ?_⟩
  have whole := congrArg List.reverse right
  rw [List.reverse_reverse, List.reverse_append] at whole
  rw [List.append_assoc]
  exact left.trans (congrArg _ whole)

/-- What begins and ends with no space. -/
theorem trim_eq_self {text : List α} (begins : text.dropWhile space = text)
    (ends : text.reverse.dropWhile space = text.reverse) : trim space text = text := by
  unfold trim
  rw [begins, ends, List.reverse_reverse]

/-- Spaces in front do not matter. -/
theorem trim_blank_append {gap : List α} (blank : Blank space gap) (text : List α) :
    trim space (gap ++ text) = trim space text := by
  unfold trim
  rw [List.dropWhile_append_of_pos blank]

/-- Nor do spaces behind. -/
theorem trim_append_blank {gap : List α} (blank : Blank space gap) (text : List α) :
    trim space (text ++ gap) = trim space text := by
  have blank' : ∀ c ∈ gap.reverse, space c = true := fun c member => blank c (List.mem_reverse.mp member)
  unfold trim
  rw [List.dropWhile_append]
  by_cases empty : (text.dropWhile space).isEmpty = true
  · have nothing : gap.dropWhile space = [] := by
      rw [← List.append_nil gap, List.dropWhile_append_of_pos blank]
      rfl
    rw [if_pos empty, List.isEmpty_iff.mp empty, nothing]
  · rw [if_neg empty, List.reverse_append, List.dropWhile_append_of_pos blank']

/-- How many characters are no spaces. -/
def letters (space : α → Bool) (text : List α) : ℕ := text.countP fun c => !space c

theorem letters_append (front rest : List α) :
    letters space (front ++ rest) = letters space front + letters space rest :=
  List.countP_append

theorem letters_eq_zero {text : List α} : letters space text = 0 ↔ Blank space text := by
  unfold letters Blank
  rw [List.countP_eq_zero]
  simp only [Bool.not_eq_true, Bool.not_eq_false']

theorem letters_trim (text : List α) : letters space (trim space text) = letters space text := by
  obtain ⟨front, back, blank, blank', whole⟩ := trim_spec space text
  have counted := congrArg (letters space) whole
  rw [letters_append, letters_append, letters_eq_zero.mpr blank, letters_eq_zero.mpr blank'] at counted
  omega

theorem trim_eq_nil {text : List α} : trim space text = [] ↔ letters space text = 0 := by
  constructor
  · intro empty
    rw [← letters_trim, empty]
    rfl
  · intro none_
    have nothing := trim_append_blank (letters_eq_zero.mp none_) []
    exact nothing

theorem words_trim (text : List α) : words space (trim space text) = words space text := by
  obtain ⟨front, back, blank, blank', whole⟩ := trim_spec space text
  conv_rhs => rw [whole]
  rw [words_append_blank blank', words_blank_append blank]

end Trimming

section Joining

variable {gap : List α}

/-- Texts with spaces between them have the characters of each. -/
theorem letters_intercalate (blank : Blank space gap) (parts : List (List α)) :
    letters space (gap.intercalate parts) = (parts.map (letters space)).sum := by
  induction parts with
  | nil => rfl
  | cons part parts ih =>
      by_cases last : parts = []
      · rw [last, List.intercalate_singleton, List.map_singleton, List.sum_singleton]
      · rw [List.intercalate_cons_of_ne_nil last, letters_append, letters_append,
          letters_eq_zero.mpr blank, ih, List.map_cons, List.sum_cons, Nat.add_zero]

/-- The first of the texts may be dropped if it is blank. -/
theorem trim_intercalate_cons (blank : Blank space gap) {part : List α} (empty : Blank space part)
    (parts : List (List α)) :
    trim space (gap.intercalate (part :: parts)) = trim space (gap.intercalate parts) := by
  by_cases last : parts = []
  · rw [last, List.intercalate_singleton, List.intercalate_nil, ← List.append_nil part,
      trim_blank_append empty]
  · rw [List.intercalate_cons_of_ne_nil last, List.append_assoc, trim_blank_append empty,
      trim_blank_append blank]

theorem trim_intercalate_blanks (blank : Blank space gap) {blanks : List (List α)}
    (empty : ∀ part ∈ blanks, Blank space part) (parts : List (List α)) :
    trim space (gap.intercalate (blanks ++ parts)) = trim space (gap.intercalate parts) := by
  induction blanks with
  | nil => rfl
  | cons part blanks ih =>
      rw [List.cons_append, trim_intercalate_cons blank (empty part (List.mem_cons_self ..))]
      exact ih fun other member => empty other (List.mem_cons_of_mem _ member)

theorem intercalate_concat {parts : List (List α)} (some_ : parts ≠ []) (last : List α) :
    gap.intercalate (parts ++ [last]) = gap.intercalate parts ++ gap ++ last := by
  induction parts with
  | nil => exact absurd rfl some_
  | cons part parts ih =>
      by_cases single : parts = []
      · rw [single, List.singleton_append, List.intercalate_cons_cons, List.intercalate_singleton,
          List.intercalate_singleton]
      · rw [List.cons_append, List.intercalate_cons_of_ne_nil (List.append_ne_nil_of_left_ne_nil single _),
          List.intercalate_cons_of_ne_nil single, ih single]
        simp only [List.append_assoc]

/-- So may the last. -/
theorem trim_intercalate_concat (blank : Blank space gap) {last : List α} (empty : Blank space last)
    (parts : List (List α)) :
    trim space (gap.intercalate (parts ++ [last])) = trim space (gap.intercalate parts) := by
  by_cases none_ : parts = []
  · rw [none_, List.nil_append]
    exact trim_intercalate_cons blank empty []
  · rw [intercalate_concat none_, trim_append_blank empty, trim_append_blank blank]

end Joining

end Lexical
