import FlipperMcp.Python.Text
import Mathlib.Data.List.Forall2

/-! # Decoding UTF-8

Decoding an encoded text gives the text (`decodeFrom_encode`).
-/

namespace Python

section Groups

/-- Bytes, each of them in its range. -/
def InRanges (ranges : List (UInt8 × UInt8)) (bytes : List UInt8) : Prop :=
  List.Forall₂ (fun range byte => range.1 ≤ byte ∧ byte ≤ range.2) ranges bytes

variable {ranges : List (UInt8 × UInt8)} {bytes : List UInt8}

theorem continued_append (inside : InRanges ranges bytes) (more : List UInt8) :
    continued ranges (bytes ++ more) = bytes.length := by
  induction inside with
  | nil => cases more <;> rfl
  | cons within _ ih =>
      rw [List.cons_append, continued, if_pos within, ih]
      rfl

theorem decodeFrom_skip (bytes more : List UInt8) :
    decodeFrom bytes.length (bytes ++ more) = decodeFrom 0 more := by
  induction bytes with
  | nil => rfl
  | cons byte bytes ih => exact ih

/-- A leading byte and as many others as it asks for are one character. -/
theorem decodeFrom_group {lead : UInt8} (asks : continuations lead = ranges)
    (inside : InRanges ranges bytes) (whole : ranges ≠ [] ∨ lead < 0x80) (more : List UInt8) :
    decodeFrom 0 (lead :: bytes ++ more) = Char.ofNat (codePoint lead bytes) :: decodeFrom 0 more := by
  have length : bytes.length = ranges.length := (List.Forall₂.length_eq inside).symm
  rw [List.cons_append, decodeFrom]
  simp only [asks, continued_append inside, length, true_and, whole, ↓reduceIte]
  rw [← length, List.take_left, decodeFrom_skip]

end Groups

section Leads

/-- The ranges, by the number of the leading byte. -/
theorem continuations_eq (lead : UInt8) : continuations lead =
    if 0xC2 ≤ lead.toNat ∧ lead.toNat ≤ 0xDF then [(0x80, 0xBF)]
    else if lead.toNat = 0xE0 then [(0xA0, 0xBF), (0x80, 0xBF)]
    else if lead.toNat = 0xED then [(0x80, 0x9F), (0x80, 0xBF)]
    else if 0xE1 ≤ lead.toNat ∧ lead.toNat ≤ 0xEF then [(0x80, 0xBF), (0x80, 0xBF)]
    else if lead.toNat = 0xF0 then [(0x90, 0xBF), (0x80, 0xBF), (0x80, 0xBF)]
    else if 0xF1 ≤ lead.toNat ∧ lead.toNat ≤ 0xF3 then [(0x80, 0xBF), (0x80, 0xBF), (0x80, 0xBF)]
    else if lead.toNat = 0xF4 then [(0x80, 0x8F), (0x80, 0xBF), (0x80, 0xBF)]
    else [] := by
  unfold continuations
  simp only [UInt8.le_iff_toNat_le, ← UInt8.toNat_inj, UInt8.reduceToNat]

theorem toNat_ofNat_of_lt {n : ℕ} (below : n < 256) : (UInt8.ofNat n).toNat = n := by
  rw [UInt8.toNat_ofNat']
  exact Nat.mod_eq_of_lt below

/-- A byte in a range. -/
theorem inRange {low high : UInt8} {n : ℕ} (lower : low.toNat ≤ n) (upper : n ≤ high.toNat) :
    low ≤ UInt8.ofNat n ∧ UInt8.ofNat n ≤ high := by
  have below : n < 256 := Nat.lt_of_le_of_lt upper high.toNat_lt
  rw [UInt8.le_iff_toNat_le, UInt8.le_iff_toNat_le, toNat_ofNat_of_lt below]
  exact ⟨lower, upper⟩

/-- A byte behind the leading one. -/
theorem inRange_behind (n : ℕ) :
    0x80 ≤ UInt8.ofNat (n % 0x40 + 0x80) ∧ UInt8.ofNat (n % 0x40 + 0x80) ≤ 0xBF := by
  apply inRange
  · change 128 ≤ _
    omega
  · change _ ≤ 191
    omega

variable {n : ℕ}

theorem continuations_one (below : n < 0x80) : continuations (UInt8.ofNat n) = [] := by
  rw [continuations_eq, toNat_ofNat_of_lt (by omega), if_neg (by omega), if_neg (by omega),
    if_neg (by omega), if_neg (by omega), if_neg (by omega), if_neg (by omega), if_neg (by omega)]

theorem continuations_two (lower : 0xC2 ≤ n) (upper : n ≤ 0xDF) :
    continuations (UInt8.ofNat n) = [(0x80, 0xBF)] := by
  rw [continuations_eq, toNat_ofNat_of_lt (by omega), if_pos ⟨lower, upper⟩]

theorem continuations_three (lower : 0xE0 ≤ n) (upper : n ≤ 0xEF) :
    continuations (UInt8.ofNat n) =
      [(if n = 0xE0 then 0xA0 else 0x80, if n = 0xED then 0x9F else 0xBF), (0x80, 0xBF)] := by
  rw [continuations_eq, toNat_ofNat_of_lt (by omega), if_neg (by omega)]
  by_cases first : n = 0xE0
  · rw [if_pos first, if_pos first, if_neg (by omega)]
  · rw [if_neg first, if_neg first]
    by_cases surrogates : n = 0xED
    · rw [if_pos surrogates, if_pos surrogates]
    · rw [if_neg surrogates, if_neg surrogates, if_pos (by omega)]

theorem continuations_four (lower : 0xF0 ≤ n) (upper : n ≤ 0xF4) :
    continuations (UInt8.ofNat n) =
      [(if n = 0xF0 then 0x90 else 0x80, if n = 0xF4 then 0x8F else 0xBF), (0x80, 0xBF), (0x80, 0xBF)] := by
  rw [continuations_eq, toNat_ofNat_of_lt (by omega), if_neg (by omega), if_neg (by omega),
    if_neg (by omega), if_neg (by omega)]
  by_cases first : n = 0xF0
  · rw [if_pos first, if_pos first, if_neg (by omega)]
  · rw [if_neg first, if_neg first]
    by_cases last : n = 0xF4
    · rw [if_neg (by omega), if_pos last, if_pos last]
    · rw [if_pos (by omega), if_neg last]

end Leads

/-- An encoded character is decoded. -/
theorem decodeFrom_encodeChar (c : Char) (more : List UInt8) :
    decodeFrom 0 (String.utf8EncodeChar c ++ more) = c :: decodeFrom 0 more := by
  have valid : c.toNat < 0xD800 ∨ 0xDFFF < c.toNat ∧ c.toNat < 0x110000 := c.valid
  unfold String.utf8EncodeChar
  change decodeFrom 0 (ite (c.toNat ≤ 0x7F) _ (ite (c.toNat ≤ 0x7FF) _ (ite (c.toNat ≤ 0xFFFF) _ _)) ++ more) = _
  by_cases one : c.toNat ≤ 0x7F
  · have small := toNat_ofNat_of_lt (Nat.lt_of_le_of_lt one (by decide))
    have group := decodeFrom_group (continuations_one (Nat.lt_succ_of_le one)) .nil
      (.inr (UInt8.lt_iff_toNat_lt.mpr (by rw [small]; exact Nat.lt_succ_of_le one))) more
    have code : codePoint (UInt8.ofNat c.toNat) [] = c.toNat := by
      change (UInt8.ofNat c.toNat).toNat % 2 ^ 7 = c.toNat
      omega
    rw [if_pos one, ← List.nil_append more, List.singleton_append]
    rw [code, Char.ofNat_toNat] at group
    exact group
  · rw [if_neg one]
    by_cases two : c.toNat ≤ 0x7FF
    · have inside : InRanges [(0x80, 0xBF)] [UInt8.ofNat (c.toNat % 0x40 + 0x80)] :=
        .cons (inRange_behind _) .nil
      have group := decodeFrom_group (continuations_two (n := c.toNat / 64 % 0x20 + 0xC0) (by omega)
        (by omega)) inside (.inl (List.cons_ne_nil _ _)) more
      have code : codePoint (UInt8.ofNat (c.toNat / 64 % 0x20 + 0xC0))
          [UInt8.ofNat (c.toNat % 0x40 + 0x80)] = c.toNat := by
        change (UInt8.ofNat _).toNat % 2 ^ 5 * 64 + (UInt8.ofNat _).toNat % 64 = c.toNat
        rw [toNat_ofNat_of_lt (by omega), toNat_ofNat_of_lt (by omega)]
        omega
      rw [if_pos two]
      rw [code, Char.ofNat_toNat] at group
      exact group
    · rw [if_neg two]
      by_cases three : c.toNat ≤ 0xFFFF
      · have inside : InRanges
            [(if c.toNat / 4096 % 0x10 + 0xE0 = 0xE0 then 0xA0 else 0x80,
              if c.toNat / 4096 % 0x10 + 0xE0 = 0xED then 0x9F else 0xBF), (0x80, 0xBF)]
            [UInt8.ofNat (c.toNat / 64 % 0x40 + 0x80), UInt8.ofNat (c.toNat % 0x40 + 0x80)] := by
          refine .cons (inRange ?_ ?_) (.cons (inRange_behind _) .nil)
          · by_cases first : c.toNat / 4096 % 0x10 + 0xE0 = 0xE0
            · rw [if_pos first]
              change 160 ≤ _
              omega
            · rw [if_neg first]
              change 128 ≤ _
              omega
          · by_cases surrogates : c.toNat / 4096 % 0x10 + 0xE0 = 0xED
            · rw [if_pos surrogates]
              change _ ≤ 159
              omega
            · rw [if_neg surrogates]
              change _ ≤ 191
              omega
        have group := decodeFrom_group (continuations_three (n := c.toNat / 4096 % 0x10 + 0xE0)
          (by omega) (by omega)) inside (.inl (List.cons_ne_nil _ _)) more
        have code : codePoint (UInt8.ofNat (c.toNat / 4096 % 0x10 + 0xE0))
            [UInt8.ofNat (c.toNat / 64 % 0x40 + 0x80), UInt8.ofNat (c.toNat % 0x40 + 0x80)] =
            c.toNat := by
          change ((UInt8.ofNat _).toNat % 2 ^ 4 * 64 + (UInt8.ofNat _).toNat % 64) * 64 +
            (UInt8.ofNat _).toNat % 64 = c.toNat
          rw [toNat_ofNat_of_lt (by omega), toNat_ofNat_of_lt (by omega),
            toNat_ofNat_of_lt (by omega)]
          omega
        rw [if_pos three]
        rw [code, Char.ofNat_toNat] at group
        exact group
      · have inside : InRanges
            [(if c.toNat / 262144 % 0x08 + 0xF0 = 0xF0 then 0x90 else 0x80,
              if c.toNat / 262144 % 0x08 + 0xF0 = 0xF4 then 0x8F else 0xBF), (0x80, 0xBF), (0x80, 0xBF)]
            [UInt8.ofNat (c.toNat / 4096 % 0x40 + 0x80), UInt8.ofNat (c.toNat / 64 % 0x40 + 0x80),
              UInt8.ofNat (c.toNat % 0x40 + 0x80)] := by
          refine .cons (inRange ?_ ?_) (.cons (inRange_behind _) (.cons (inRange_behind _) .nil))
          · by_cases first : c.toNat / 262144 % 0x08 + 0xF0 = 0xF0
            · rw [if_pos first]
              change 144 ≤ _
              omega
            · rw [if_neg first]
              change 128 ≤ _
              omega
          · by_cases last : c.toNat / 262144 % 0x08 + 0xF0 = 0xF4
            · rw [if_pos last]
              change _ ≤ 143
              omega
            · rw [if_neg last]
              change _ ≤ 191
              omega
        have group := decodeFrom_group (continuations_four (n := c.toNat / 262144 % 0x08 + 0xF0)
          (by omega) (by omega)) inside (.inl (List.cons_ne_nil _ _)) more
        have code : codePoint (UInt8.ofNat (c.toNat / 262144 % 0x08 + 0xF0))
            [UInt8.ofNat (c.toNat / 4096 % 0x40 + 0x80), UInt8.ofNat (c.toNat / 64 % 0x40 + 0x80),
              UInt8.ofNat (c.toNat % 0x40 + 0x80)] = c.toNat := by
          change (((UInt8.ofNat _).toNat % 2 ^ 3 * 64 + (UInt8.ofNat _).toNat % 64) * 64 +
            (UInt8.ofNat _).toNat % 64) * 64 + (UInt8.ofNat _).toNat % 64 = c.toNat
          rw [toNat_ofNat_of_lt (by omega), toNat_ofNat_of_lt (by omega),
            toNat_ofNat_of_lt (by omega), toNat_ofNat_of_lt (by omega)]
          omega
        rw [if_neg three]
        rw [code, Char.ofNat_toNat] at group
        exact group

/-- **Decoding undoes encoding.** -/
theorem decodeFrom_encode (text : List Char) :
    decodeFrom 0 (text.flatMap String.utf8EncodeChar) = text := by
  induction text with
  | nil => rfl
  | cons c text ih => rw [List.flatMap_cons, decodeFrom_encodeChar, ih]

end Python
