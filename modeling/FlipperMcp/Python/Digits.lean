import FlipperMcp.Python.Words

/-! # Python's three notions of a digit

The class `\d` of a regular expression holds the decimal digits of every script.
`str.isdigit` holds for these and for others, such as superscripts and circled digits, that
`int` does not take; and `int` takes no more than 4300 digits. The characters are those of
Unicode 15.1.
-/

namespace Python

/-- The zeros of the decimal digits. -/
def decimalZeros : List ℕ :=
  [0x30, 0x660, 0x6F0, 0x7C0, 0x966, 0x9E6, 0xA66, 0xAE6, 0xB66, 0xBE6, 0xC66, 0xCE6, 0xD66, 0xDE6,
    0xE50, 0xED0, 0xF20, 0x1040, 0x1090, 0x17E0, 0x1810, 0x1946, 0x19D0, 0x1A80, 0x1A90, 0x1B50,
    0x1BB0, 0x1C40, 0x1C50, 0xA620, 0xA8D0, 0xA900, 0xA9D0, 0xA9F0, 0xAA50, 0xABF0, 0xFF10, 0x104A0,
    0x10D30, 0x11066, 0x110F0, 0x11136, 0x111D0, 0x112F0, 0x11450, 0x114D0, 0x11650, 0x116C0, 0x11730,
    0x118E0, 0x11950, 0x11C50, 0x11D50, 0x11DA0, 0x11F50, 0x16A60, 0x16AC0, 0x16B50, 0x1D7CE, 0x1D7D8,
    0x1D7E2, 0x1D7EC, 0x1D7F6, 0x1E140, 0x1E2F0, 0x1E4F0, 0x1E950, 0x1FBF0]

/-- The other characters with the digit property, from the first to the last of each range. -/
def otherDigits : List (ℕ × ℕ) :=
  [(0xB2, 0xB3), (0xB9, 0xB9), (0x1369, 0x1371), (0x19DA, 0x19DA), (0x2070, 0x2070), (0x2074, 0x2079),
    (0x2080, 0x2089), (0x2460, 0x2468), (0x2474, 0x247C), (0x2488, 0x2490), (0x24EA, 0x24EA),
    (0x24F5, 0x24FD), (0x24FF, 0x24FF), (0x2776, 0x277E), (0x2780, 0x2788), (0x278A, 0x2792),
    (0x10A40, 0x10A43), (0x10E60, 0x10E68), (0x11052, 0x1105A), (0x1F100, 0x1F10A)]

/-- The zero that a decimal digit counts from. -/
def zeroOf? (code : ℕ) : Option ℕ := decimalZeros.find? fun first => first ≤ code ∧ code < first + 10

/-- A decimal digit, as in `\d`. -/
def isDecimal (c : Char) : Bool := (zeroOf? c.toNat).isSome

/-- `str.isdigit` of one character. -/
def isDigit (c : Char) : Bool :=
  isDecimal c || otherDigits.any fun range => range.1 ≤ c.toNat ∧ c.toNat ≤ range.2

/-- `text.isdigit()`. -/
def isDigitText (text : List Char) : Bool := text ≠ [] ∧ text.all isDigit

/-- What a decimal digit stands for. -/
def digitValue (c : Char) : ℕ := c.toNat - (zeroOf? c.toNat).getD 0

/-- The most digits `int` takes. -/
def maxStrDigits : ℕ := 4300

/-- `int(text)` of a text of digits, or the text of its `ValueError`. -/
def int (text : List Char) : Except String ℕ :=
  if text = [] ∨ ¬ text.all isDecimal then
    .error ("invalid literal for int() with base 10: " ++
      String.ofList ((repr (String.ofList text)).toList.take 200))
  else if maxStrDigits < text.length then
    .error (s!"Exceeds the limit ({maxStrDigits} digits) for integer string conversion: value has " ++
      s!"{text.length} digits; use sys.set_int_max_str_digits() to increase the limit")
  else .ok (text.foldl (fun value c => 10 * value + digitValue c) 0)

/-- What a hexadecimal digit stands for. -/
def hexValue? (c : Char) : Option ℕ :=
  if isDecimal c then some (digitValue c)
  else if 97 ≤ c.toNat ∧ c.toNat ≤ 102 then some (c.toNat - 87)
  else if 65 ≤ c.toNat ∧ c.toNat ≤ 70 then some (c.toNat - 55)
  else none

/-- `int(digit, 16)` of one character. -/
def int16 (digit : Char) : Except String ℕ :=
  match hexValue? digit with
  | some value => .ok value
  | none => .error ("invalid literal for int() with base 16: " ++ repr (String.ofList [digit]))

/-- **What `int` takes.** -/
theorem int_ok_iff (text : List Char) : (∃ n, int text = .ok n) ↔
    text ≠ [] ∧ (∀ c ∈ text, isDecimal c = true) ∧ text.length ≤ maxStrDigits := by
  unfold int
  by_cases literal : text = [] ∨ ¬ text.all isDecimal
  · rw [if_pos literal]
    refine iff_of_false (fun ⟨n, taken⟩ => nomatch taken) fun ⟨some_, all, _⟩ => ?_
    exact literal.elim some_ fun other => other (List.all_eq_true.mpr all)
  · obtain ⟨some_, all⟩ := not_or.mp literal
    rw [if_neg literal]
    by_cases long : maxStrDigits < text.length
    · rw [if_pos long]
      exact iff_of_false (fun ⟨n, taken⟩ => nomatch taken) fun taken => Nat.not_lt.mpr taken.2.2 long
    · rw [if_neg long]
      exact iff_of_true ⟨_, rfl⟩
        ⟨some_, List.all_eq_true.mp (not_not.mp all), Nat.le_of_not_lt long⟩

theorem isDigit_of_isDecimal {c : Char} (decimal : isDecimal c = true) : isDigit c = true := by
  unfold isDigit
  rw [decimal, Bool.true_or]

/-- A white space is no decimal digit. -/
theorem isDecimal_of_isSpace {c : Char} (space : isSpace c = true) : isDecimal c = false := by
  unfold isDecimal
  rcases (isSpace_iff c).mp space with listed | inside
  · have none_ : ∀ code ∈ [0x9, 0xA, 0xB, 0xC, 0xD, 0x1C, 0x1D, 0x1E, 0x1F, 0x20, 0x85, 0xA0, 0x1680, 0x2028,
        0x2029, 0x202F, 0x205F, 0x3000], (zeroOf? code).isSome = false := by decide +kernel
    exact none_ _ listed
  · have none_ : ∀ offset ≤ 10, (zeroOf? (0x2000 + offset)).isSome = false := by decide +kernel
    obtain ⟨offset, code⟩ := Nat.exists_eq_add_of_le inside.1
    rw [code] at inside ⊢
    exact none_ offset (by omega)

/-- The digits of decimal notation. -/
theorem digitChar_value : ∀ d < 10, isDecimal d.digitChar = true ∧ digitValue d.digitChar = d := by
  decide +kernel

theorem toDigits_value (n : ℕ) : (∀ c ∈ Nat.toDigits 10 n, isDecimal c = true) ∧
    (Nat.toDigits 10 n).foldl (fun value c => 10 * value + digitValue c) 0 = n := by
  induction n using Nat.strongRecOn with
  | ind n ih =>
      by_cases small : n < 10
      · obtain ⟨decimal, value⟩ := digitChar_value n small
        rw [Nat.toDigits_of_lt_base small]
        refine ⟨fun c present => ?_, ?_⟩
        · rw [List.mem_singleton.mp present]
          exact decimal
        · rw [List.foldl_cons, List.foldl_nil, value, Nat.mul_zero, Nat.zero_add]
      · have large := Nat.le_of_not_lt small
        obtain ⟨decimals, front⟩ := ih (n / 10) (Nat.div_lt_self (by omega) (by decide))
        obtain ⟨decimal, value⟩ := digitChar_value (n % 10) (Nat.mod_lt n (by decide))
        rw [Nat.toDigits_of_base_le (by decide) large]
        refine ⟨fun c present => ?_, ?_⟩
        · rcases List.mem_append.mp present with present | present
          · exact decimals c present
          · rw [List.mem_singleton.mp present]
            exact decimal
        · rw [List.foldl_append, front, List.foldl_cons, List.foldl_nil, value]
          exact Nat.div_add_mod n 10

/-- Decimal notation, while it is not too long. -/
theorem int_toDigits {n : ℕ} (short : (Nat.toDigits 10 n).length ≤ maxStrDigits) :
    int (Nat.toDigits 10 n) = .ok n := by
  obtain ⟨decimals, value⟩ := toDigits_value n
  have literal : ¬ (Nat.toDigits 10 n = [] ∨ ¬ (Nat.toDigits 10 n).all isDecimal) :=
    not_or.mpr ⟨Nat.toDigits_ne_nil, not_not.mpr (List.all_eq_true.mpr decimals)⟩
  unfold int
  rw [if_neg literal, if_neg (Nat.not_lt.mpr short), value]

end Python
