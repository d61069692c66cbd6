import Mathlib.Data.List.Basic

/-! # Form encoding

`application/x-www-form-urlencoded`, as a browser writes the value of a field: letters, digits
and `*-._` stand for themselves, a space is a `+`, and any other byte is escaped.

A cut through an encoded text falls between two bytes or inside an escape
(`encode_take_cases`).
-/

namespace FormEncoding

/-- It stands for itself. -/
def plain (b : UInt8) : Bool :=
  (48 ≤ b ∧ b ≤ 57) ∨ (65 ≤ b ∧ b ≤ 90) ∨ (97 ≤ b ∧ b ≤ 122) ∨ b ∈ [42, 45, 46, 95]

/-- The digit of a value below 16. -/
def hexDigit (n : ℕ) : UInt8 := UInt8.ofNat (if n < 10 then 48 + n else 55 + n)

def encodeByte (b : UInt8) : List UInt8 :=
  if plain b then [b] else if b = 32 then [43] else [37, hexDigit (b.toNat / 16), hexDigit (b.toNat % 16)]

def encode (bytes : List UInt8) : List UInt8 := bytes.flatMap encodeByte

theorem encode_cons (b : UInt8) (bytes : List UInt8) : encode (b :: bytes) = encodeByte b ++ encode bytes :=
  List.flatMap_cons

theorem encode_append (front rest : List UInt8) : encode (front ++ rest) = encode front ++ encode rest :=
  List.flatMap_append

theorem plain_hexDigit : ∀ n < 16, plain (hexDigit n) = true := by decide

theorem low_digit (b : UInt8) : b.toNat % 16 < 16 := Nat.mod_lt _ (Nat.succ_pos 15)

theorem high_digit (b : UInt8) : b.toNat / 16 < 16 :=
  Nat.div_lt_of_lt_mul b.toNat_lt

/-- What stands in an encoded text. -/
theorem plain_or_of_mem {c : UInt8} {bytes : List UInt8} (present : c ∈ encode bytes) :
    plain c = true ∨ c = 43 ∨ c = 37 := by
  obtain ⟨b, -, present⟩ := List.mem_flatMap.mp present
  unfold encodeByte at present
  split at present
  next itself =>
    obtain rfl := List.mem_singleton.mp present
    exact .inl itself
  next escaped =>
    split at present
    next space => exact .inr (.inl (List.mem_singleton.mp present))
    next other =>
      rcases List.mem_cons.mp present with percent | present
      · exact .inr (.inr percent)
      rcases List.mem_cons.mp present with rfl | present
      · exact .inl (plain_hexDigit _ (high_digit b))
      · obtain rfl := List.mem_singleton.mp present
        exact .inl (plain_hexDigit _ (low_digit b))

theorem not_mem_encode {c : UInt8} (foreign : ¬ (plain c = true ∨ c = 43 ∨ c = 37))
    (bytes : List UInt8) : c ∉ encode bytes :=
  mt plain_or_of_mem foreign

theorem length_encodeByte (b : UInt8) : 1 ≤ (encodeByte b).length ∧ (encodeByte b).length ≤ 3 := by
  unfold encodeByte
  split
  · exact ⟨Nat.le_refl 1, Nat.le_of_ble_eq_true rfl⟩
  · split
    · exact ⟨Nat.le_refl 1, Nat.le_of_ble_eq_true rfl⟩
    · exact ⟨Nat.le_of_ble_eq_true rfl, Nat.le_refl 3⟩

theorem length_encode_le (bytes : List UInt8) : (encode bytes).length ≤ 3 * bytes.length := by
  induction bytes with
  | nil => exact Nat.le_refl 0
  | cons b bytes ih =>
      have one := (length_encodeByte b).2
      rw [encode_cons, List.length_append, List.length_cons]
      omega

/-- **A cut through an encoded text.** -/
theorem encode_take_cases (bytes : List UInt8) (n : ℕ) :
    (encode bytes).length ≤ n ∨ ∃ front b rest k, bytes = front ++ b :: rest ∧
      (encode front).length + k = n ∧ k < (encodeByte b).length ∧
      (encode bytes).take n = encode front ++ (encodeByte b).take k := by
  induction bytes generalizing n with
  | nil => exact .inl (Nat.zero_le n)
  | cons b bytes ih =>
      rw [encode_cons]
      by_cases whole : (encodeByte b).length ≤ n
      · rcases ih (n - (encodeByte b).length) with fits | ⟨front, c, rest, k, split, count, inside, cut⟩
        · left
          rw [List.length_append]
          omega
        · right
          refine ⟨b :: front, c, rest, k, congrArg (b :: ·) split, ?_, inside, ?_⟩
          · rw [encode_cons, List.length_append]
            omega
          · rw [List.take_append, List.take_of_length_le whole, cut, encode_cons, List.append_assoc]
      · right
        refine ⟨[], b, bytes, n, rfl, Nat.zero_add n, Nat.lt_of_not_le whole, ?_⟩
        rw [List.take_append_of_le_length (Nat.le_of_lt (Nat.lt_of_not_le whole))]
        rfl

end FormEncoding
