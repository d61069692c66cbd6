import FlipperMcp.Lexical.Words
import FlipperMcp.Python.Text

/-! # The words of a text

`split` takes the words off a text one by one (`split_word`). Stripping and lowering leave
a beginning alone that has no space at its ends and no capital (`strip_front`,
`lower_front`); stripping leaves the words alone and lowering lowers them (`split_strip`,
`words_lower`).
-/

namespace Python

theorem split_eq (text : String) :
    split text = (Lexical.words isSpace text.toList).map String.ofList := by
  unfold split Lexical.words
  congr 2
  funext word
  cases word <;> rfl

theorem strip_eq (text : String) : strip text = String.ofList (Lexical.trim isSpace text.toList) :=
  rfl

/-- A capital becomes a small letter; other characters stay. -/
theorem toLower_cases (c : Char) :
    (65 ≤ c.toNat ∧ c.toNat ≤ 90 ∧ c.toLower.toNat = c.toNat + 32) ∨
      (¬ (65 ≤ c.toNat ∧ c.toNat ≤ 90) ∧ c.toLower = c) := by
  unfold Char.toLower
  by_cases capital : c.val ≥ 'A'.val ∧ c.val ≤ 'Z'.val
  · have lower : 65 ≤ c.toNat := UInt32.le_iff_toNat_le.mp capital.1
    have upper : c.toNat ≤ 90 := UInt32.le_iff_toNat_le.mp capital.2
    rw [dif_pos capital]
    refine .inl ⟨lower, upper, ?_⟩
    change (c.val + 32).toNat = c.toNat + 32
    rw [UInt32.toNat_add]
    change (c.toNat + 32) % 2 ^ 32 = _
    exact Nat.mod_eq_of_lt (by omega)
  · rw [dif_neg capital]
    refine .inr ⟨fun range => capital ?_, rfl⟩
    exact ⟨UInt32.le_iff_toNat_le.mpr range.1, UInt32.le_iff_toNat_le.mpr range.2⟩

theorem isSpace_iff (c : Char) : isSpace c = true ↔
    c.toNat ∈ [0x9, 0xA, 0xB, 0xC, 0xD, 0x1C, 0x1D, 0x1E, 0x1F, 0x20, 0x85, 0xA0, 0x1680, 0x2028,
      0x2029, 0x202F, 0x205F, 0x3000] ∨ (0x2000 ≤ c.toNat ∧ c.toNat ≤ 0x200A) := by
  simp only [isSpace, Bool.or_eq_true, Bool.and_eq_true, decide_eq_true_eq]

theorem isWord_of_check {word : List Char}
    (checked : (!word.isEmpty && word.all fun c => !isSpace c) = true) : Lexical.IsWord isSpace word := by
  rw [Bool.and_eq_true, Bool.not_eq_true', List.isEmpty_eq_false_iff] at checked
  refine ⟨checked.1, fun c member => ?_⟩
  exact Bool.not_eq_true' _ ▸ List.all_eq_true.mp checked.2 c member

theorem lowerChar_space {c : Char} (space : isSpace c = true) : lowerChar c = [c] := by
  have code := (isSpace_iff c).mp space
  simp only [List.mem_cons, List.not_mem_nil, or_false] at code
  unfold lowerChar
  rw [if_neg (by omega), if_neg (by omega)]
  rcases toLower_cases c with ⟨low, high, -⟩ | ⟨-, same⟩
  · omega
  · rw [same]

/-- The lower case of a letter is no space. -/
theorem lowerChar_letter {c : Char} (letter : isSpace c = false) :
    Lexical.IsWord isSpace (lowerChar c) := by
  unfold lowerChar
  by_cases dotted : c.toNat = 0x130
  · rw [if_pos dotted]
    exact isWord_of_check rfl
  · rw [if_neg dotted]
    by_cases kelvin : c.toNat = 0x212A
    · rw [if_pos kelvin]
      exact isWord_of_check rfl
    · rw [if_neg kelvin]
      refine ⟨List.cons_ne_nil _ _, fun d member => ?_⟩
      obtain rfl := List.mem_singleton.mp member
      rcases toLower_cases c with ⟨low, high, code⟩ | ⟨-, same⟩
      · rw [Bool.eq_false_iff, ne_eq, isSpace_iff, code]
        simp only [List.mem_cons, List.not_mem_nil, or_false]
        omega
      · rw [same]
        exact letter

/-- Lowering lowers the words. -/
theorem words_lower (text : String) :
    Lexical.words isSpace (lower text).toList =
      (Lexical.words isSpace text.toList).map fun word => word.flatMap lowerChar := by
  unfold lower
  rw [String.toList_ofList]
  exact Lexical.words_flatMap (fun c space => ⟨c, lowerChar_space space, space⟩)
    (fun _ => lowerChar_letter) _

/-- The first word of a text, up to a space. -/
theorem split_word {word : List Char} (h : Lexical.IsWord isSpace word) {c : Char}
    (space : isSpace c = true) (rest : List Char) :
    split (String.ofList (word ++ c :: rest)) =
      String.ofList word :: split (String.ofList rest) := by
  rw [split_eq, split_eq, String.toList_ofList, String.toList_ofList,
    Lexical.words_append_cons space, h.words, List.map_append, List.map_singleton]
  rfl

/-- What begins and ends with no space stays in front when a text is stripped. -/
theorem strip_front {front : List Char} (some_ : front ≠ [])
    (begins : front.dropWhile isSpace = front)
    (ends : front.reverse.dropWhile isSpace = front.reverse) (rest : List Char) :
    ∃ kept, strip (String.ofList (front ++ rest)) = String.ofList (front ++ kept) := by
  have left : (front ++ rest).dropWhile isSpace = front ++ rest := by
    rw [List.dropWhile_append, begins, if_neg]
    rwa [List.isEmpty_iff]
  unfold strip
  rw [String.toList_ofList, left, List.reverse_append, List.dropWhile_append]
  by_cases blank : (rest.reverse.dropWhile isSpace).isEmpty = true
  · rw [if_pos blank, ends, List.reverse_reverse]
    exact ⟨[], by rw [List.append_nil]⟩
  · rw [if_neg blank, List.reverse_append, List.reverse_reverse]
    exact ⟨_, rfl⟩

/-- A beginning that is in lower case stays in front. -/
theorem lower_front {front : List Char} (lowered : front.flatMap lowerChar = front)
    (rest : List Char) :
    lower (String.ofList (front ++ rest)) = String.ofList (front ++ rest.flatMap lowerChar) := by
  unfold lower
  rw [String.toList_ofList, List.flatMap_append, lowered]

/-- A text in front of another. -/
theorem startsWith_append (part rest : String) : startsWith part (part ++ rest) = true := by
  unfold startsWith
  rw [String.toList_append]
  exact decide_eq_true (List.prefix_append _ _)

theorem startsWith_iff {part text : String} :
    startsWith part text = true ↔ ∃ rest, text = part ++ rest := by
  constructor
  · intro starts
    obtain ⟨rest, same⟩ := of_decide_eq_true starts
    refine ⟨String.ofList rest, ?_⟩
    rw [← String.toList_inj, String.toList_append, String.toList_ofList, same]
  · rintro ⟨rest, rfl⟩
    exact startsWith_append part rest

end Python
