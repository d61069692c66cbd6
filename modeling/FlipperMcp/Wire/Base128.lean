import Mathlib.Data.List.Basic
import Mathlib.Tactic.Ring

/-! # Base-128 numbers and delimited frames

A natural number is written in groups of seven bits, lowest group first, every
byte but the last carrying the continuation bit. A frame is a payload behind its
length. Both encodings are self-delimiting: what follows them in a stream does
not matter (`Base128.decode_encode`, `Base128.unframe_frame`).
-/

namespace Base128

/-- The lowest `fuel + 1` groups of a number. -/
def groups : ℕ → ℕ → List UInt8
  | 0, n => [UInt8.ofNat (n % 128)]
  | fuel + 1, n =>
      if n < 128 then [UInt8.ofNat n]
      else UInt8.ofNat (n % 128 + 128) :: groups fuel (n / 128)

/-- The base-128 form of a number; a number has at most as many groups as its
own value. -/
def encode (n : ℕ) : List UInt8 := groups n n

/-- Read a number of at most `limit` bytes, with the bytes after it. -/
def decode : ℕ → List UInt8 → Option (ℕ × List UInt8)
  | 0, _ => none
  | _ + 1, [] => none
  | limit + 1, byte :: rest =>
      if byte.toNat < 128 then some (byte.toNat, rest)
      else (decode limit rest).map fun high => (byte.toNat - 128 + 128 * high.1, high.2)

theorem groups_eq_of_le {n fuel : ℕ} (enough : n ≤ fuel) : groups fuel n = encode n := by
  suffices general : ∀ first second n, n ≤ first → n ≤ second →
      groups first n = groups second n from general fuel n n enough le_rfl
  intro first
  induction first with
  | zero =>
      intro second n below _
      obtain rfl : n = 0 := Nat.le_zero.mp below
      cases second <;> rfl
  | succ first ih =>
      intro second n below below'
      cases second with
      | zero =>
          obtain rfl : n = 0 := Nat.le_zero.mp below'
          rfl
      | succ second =>
          unfold groups
          split
          · rfl
          · rw [ih second (n / 128) (by omega) (by omega)]

theorem encode_of_lt {n : ℕ} (small : n < 128) : encode n = [UInt8.ofNat n] := by
  unfold encode
  cases n with
  | zero => rfl
  | succ n => rw [groups, if_pos small]

/-- A number from 128 on is its lowest group followed by the others. -/
theorem encode_of_le {n : ℕ} (large : 128 ≤ n) :
    encode n = UInt8.ofNat (n % 128 + 128) :: encode (n / 128) := by
  obtain ⟨m, rfl⟩ : ∃ m, n = m + 1 := ⟨n - 1, by omega⟩
  rw [encode, groups, if_neg (by omega), groups_eq_of_le (by omega)]

theorem encode_ne_nil (n : ℕ) : encode n ≠ [] := by
  by_cases small : n < 128
  · simp only [encode_of_lt small, ne_eq, List.cons_ne_self, not_false_eq_true]
  · simp only [encode_of_le (not_lt.mp small), ne_eq, reduceCtorEq, not_false_eq_true]

/-- A number takes no more bytes than its bound has groups. -/
theorem length_encode_le {n k : ℕ} (fits : n < 128 ^ (k + 1)) : (encode n).length ≤ k + 1 := by
  induction k generalizing n with
  | zero =>
      rw [encode_of_lt (by simpa using fits), List.length_singleton]
  | succ k ih =>
      by_cases small : n < 128
      · rw [encode_of_lt small, List.length_singleton]
        omega
      · rw [encode_of_le (not_lt.mp small), List.length_cons]
        apply Nat.succ_le_succ
        apply ih
        rw [pow_succ] at fits
        exact Nat.div_lt_of_lt_mul (by omega)

private theorem toNat_ofNat_of_lt {n : ℕ} (small : n < 256) : (UInt8.ofNat n).toNat = n := by
  rw [UInt8.toNat_ofNat']
  exact Nat.mod_eq_of_lt small

/-- Reading a written number gives it back, with everything after it. -/
theorem decode_encode {limit n : ℕ} (fits : n < 128 ^ (limit + 1)) (rest : List UInt8) :
    decode (limit + 1) (encode n ++ rest) = some (n, rest) := by
  induction limit generalizing n with
  | zero =>
      have small : n < 128 := by simpa only [zero_add, pow_one] using fits
      rw [encode_of_lt small, List.singleton_append, decode, toNat_ofNat_of_lt (by omega),
        if_pos small]
  | succ limit ih =>
      by_cases small : n < 128
      · rw [encode_of_lt small, List.singleton_append, decode,
          toNat_ofNat_of_lt (by omega), if_pos small]
      · have lowest : (UInt8.ofNat (n % 128 + 128)).toNat = n % 128 + 128 :=
          toNat_ofNat_of_lt (by omega)
        have higher : n / 128 < 128 ^ (limit + 1) := by
          rw [Nat.div_lt_iff_lt_mul (by omega), ← pow_succ]
          exact fits
        have whole : n % 128 + 128 - 128 + 128 * (n / 128) = n := by omega
        rw [encode_of_le (not_lt.mp small), List.cons_append, decode, lowest,
          if_neg (by omega), ih higher, Option.map_some, whole]

/-- Decoding reads the stream from the front. -/
theorem decode_append {limit n : ℕ} {stream rest : List UInt8}
    (decoded : decode limit stream = some (n, rest)) (later : List UInt8) :
    decode limit (stream ++ later) = some (n, rest ++ later) := by
  induction limit generalizing n stream rest with
  | zero => exact absurd decoded (by simp only [decode, reduceCtorEq, not_false_eq_true])
  | succ limit ih =>
      cases stream with
      | nil => exact absurd decoded (by simp only [decode, reduceCtorEq, not_false_eq_true])
      | cons byte stream =>
          rw [List.cons_append]
          unfold decode at decoded ⊢
          split at decoded
          next last =>
            rw [if_pos last]
            simp only [Option.some.injEq, Prod.mk.injEq] at decoded ⊢
            exact ⟨decoded.1, by rw [decoded.2]⟩
          next continued =>
            rw [if_neg continued]
            obtain ⟨⟨high, tail⟩, inner, same⟩ := Option.map_eq_some_iff.mp decoded
            simp only [Prod.mk.injEq] at same
            rw [ih inner, Option.map_some, same.1, same.2]

/-- More bytes may be read for a number than it has. -/
theorem decode_of_le {limit larger : ℕ} (more : limit ≤ larger) {stream : List UInt8}
    {found : ℕ × List UInt8} (decoded : decode limit stream = some found) :
    decode larger stream = some found := by
  induction limit generalizing larger stream found with
  | zero => exact nomatch decoded
  | succ limit ih =>
      obtain ⟨larger, rfl⟩ := Nat.exists_eq_add_of_le' (Nat.one_le_of_lt more)
      cases stream with
      | nil => exact nomatch decoded
      | cons byte stream =>
          unfold decode at decoded ⊢
          by_cases last : byte.toNat < 128
          · rw [if_pos last] at decoded ⊢
            exact decoded
          · rw [if_neg last] at decoded ⊢
            obtain ⟨high, inner, same⟩ := Option.map_eq_some_iff.mp decoded
            rw [ih (Nat.le_of_succ_le_succ more) inner, Option.map_some, same]

/-- A payload behind its length. -/
def frame (payload : List UInt8) : List UInt8 := encode payload.length ++ payload

/-- Take the first frame off a stream, its length at most `width` bytes long. -/
def unframe (width : ℕ) (stream : List UInt8) : Option (List UInt8 × List UInt8) :=
  match decode width stream with
  | none => none
  | some (length, rest) =>
      if length ≤ rest.length then some (rest.take length, rest.drop length) else none

theorem length_frame_le {payload : List UInt8} {k : ℕ} (fits : payload.length < 128 ^ (k + 1)) :
    (frame payload).length ≤ payload.length + (k + 1) := by
  rw [frame, List.length_append, Nat.add_comm]
  exact Nat.add_le_add_left (length_encode_le fits) _

theorem le_length_frame (payload : List UInt8) : payload.length ≤ (frame payload).length := by
  rw [frame, List.length_append]
  exact Nat.le_add_left ..

theorem frame_ne_nil (payload : List UInt8) : frame payload ≠ [] :=
  List.append_ne_nil_of_left_ne_nil (encode_ne_nil _) _

theorem unframe_frame {width : ℕ} {payload : List UInt8}
    (fits : payload.length < 128 ^ (width + 1)) (rest : List UInt8) :
    unframe (width + 1) (frame payload ++ rest) = some (payload, rest) := by
  unfold unframe frame
  rw [List.append_assoc, decode_encode fits]
  simp only [List.length_append, Nat.le_add_right, ↓reduceIte, List.take_left, List.drop_left]

/-- Taking a frame off reads the stream from the front. -/
theorem unframe_append {width : ℕ} {payload stream rest : List UInt8}
    (framed : unframe width stream = some (payload, rest)) (later : List UInt8) :
    unframe width (stream ++ later) = some (payload, rest ++ later) := by
  unfold unframe at framed ⊢
  cases decoded : decode width stream with
  | none =>
      rw [decoded] at framed
      cases framed
  | some found =>
      obtain ⟨length, behind⟩ := found
      rw [decoded] at framed
      rw [decode_append decoded later]
      simp only at framed ⊢
      split at framed
      next whole =>
        obtain ⟨rfl, rfl⟩ := Prod.mk.inj (Option.some.inj framed)
        have still : length ≤ (behind ++ later).length := by
          rw [List.length_append]
          exact whole.trans (Nat.le_add_right _ _)
        rw [if_pos still, List.take_append_of_le_length whole, List.drop_append_of_le_length whole]
      next => cases framed

/-- Two streams agree only if they begin with the same frame. -/
theorem frame_append_inj {first second later later' : List UInt8}
    (same : frame first ++ later = frame second ++ later') : first = second ∧ later = later' := by
  have fits : ∀ {payload : List UInt8}, payload.length ≤ first.length + second.length →
      payload.length < 128 ^ (first.length + second.length + 1) := by
    intro payload below
    have grows := @Nat.lt_pow_self (first.length + second.length) 128 (by decide)
    exact (below.trans_lt grows).trans_le (Nat.pow_le_pow_right (by decide) (Nat.le_add_right _ 1))
  have left := unframe_frame (fits (Nat.le_add_right _ second.length)) later
  have right := unframe_frame (fits (Nat.le_add_left _ first.length)) later'
  rw [same, right] at left
  obtain ⟨rfl, rfl⟩ := Prod.mk.inj (Option.some.inj left)
  exact ⟨rfl, rfl⟩

/-- What is taken off a stream that begins with a frame is this frame. -/
theorem unframe_frame_append {width : ℕ} {payload later payload' left : List UInt8}
    (taken : unframe width (frame payload ++ later) = some (payload', left)) :
    payload' = payload ∧ left = later := by
  unfold unframe frame at taken
  rw [List.append_assoc] at taken
  cases decoded : decode width (encode payload.length ++ (payload ++ later)) with
  | none =>
      rw [decoded] at taken
      exact nomatch taken
  | some found =>
      have grows := @Nat.lt_pow_self (width + payload.length + 1) 128 (by decide)
      have fits : payload.length < 128 ^ (width + payload.length + 1) := by omega
      have wider := decode_of_le (by omega : width ≤ width + payload.length + 1) decoded
      rw [decode_encode fits] at wider
      obtain rfl := Option.some.inj wider
      rw [decoded] at taken
      simp only [List.length_append, Nat.le_add_right, ↓reduceIte, List.take_left,
        List.drop_left] at taken
      obtain ⟨rfl, rfl⟩ := Prod.mk.inj (Option.some.inj taken)
      exact ⟨rfl, rfl⟩

/-- A frame is taken off itself. -/
theorem unframe_own (payload : List UInt8) :
    unframe (frame payload).length (frame payload) = some (payload, []) := by
  have positive := List.length_pos_iff.mpr (frame_ne_nil payload)
  obtain ⟨width, size⟩ := Nat.exists_eq_add_of_le' positive
  have grows := @Nat.lt_pow_self (width + 1) 128 (by decide)
  have fits : payload.length < 128 ^ (width + 1) := by
    have shorter := le_length_frame payload
    omega
  have taken := unframe_frame fits []
  rw [List.append_nil] at taken
  rw [size]
  exact taken

/-- Nothing is taken off a frame that is cut short. -/
theorem unframe_cut {payload part missing : List UInt8} (cut : part ++ missing = frame payload)
    (short : missing ≠ []) (width : ℕ) : unframe width part = none := by
  cases taken : unframe width part with
  | none => rfl
  | some found =>
      have more := unframe_append taken missing
      rw [cut, ← List.append_nil (frame payload)] at more
      exact absurd (List.append_eq_nil_iff.mp (unframe_frame_append more).2).2 short

end Base128
