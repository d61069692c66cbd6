import FlipperMcp.Wire.Base128

/-! # Tagged fields

A message is a list of numbered fields, each a number or a byte string, written
one after another behind its tag. The tag is the field number times eight plus
the kind of the value; fields holding their default value are left out by the
writer, so a missing field reads as the default.
-/

namespace Tagged

/-- The value of one field. -/
inductive Value
  | varint (value : ℕ)
  | bytes (data : List UInt8)
  deriving DecidableEq

/-- A numbered field. -/
structure Field where
  number : ℕ
  value : Value
  deriving DecidableEq

/-- A field behind its tag. -/
def Field.encode : Field → List UInt8
  | ⟨number, .varint value⟩ => Base128.encode (8 * number) ++ Base128.encode value
  | ⟨number, .bytes data⟩ => Base128.encode (8 * number + 2) ++ Base128.frame data

/-- The fields of a message, one after another. -/
def encode (fields : List Field) : List UInt8 := fields.flatMap Field.encode

/-- Take the first field off a stream. -/
def Field.decode (stream : List UInt8) : Option (Field × List UInt8) := do
  let (tag, rest) ← Base128.decode (stream.length + 1) stream
  if tag % 8 = 0 then
    let (value, rest) ← Base128.decode (stream.length + 1) rest
    pure (⟨tag / 8, .varint value⟩, rest)
  else if tag % 8 = 2 then
    let (data, rest) ← Base128.unframe (stream.length + 1) rest
    pure (⟨tag / 8, .bytes data⟩, rest)
  else none

/-- Read at most `limit` fields, up to the end of the stream. -/
def decodeUpTo : ℕ → List UInt8 → Option (List Field)
  | _, [] => some []
  | 0, _ :: _ => none
  | limit + 1, stream@(_ :: _) => do
      let (field, rest) ← Field.decode stream
      let fields ← decodeUpTo limit rest
      pure (field :: fields)

/-- The fields of a stream; a field takes at least one byte. -/
def decode (stream : List UInt8) : Option (List Field) := decodeUpTo stream.length stream

/-- A number is smaller than what its groups can hold. -/
theorem lt_pow_length_encode (n : ℕ) : n < 128 ^ (Base128.encode n).length := by
  induction n using Nat.strongRecOn with
  | ind n ih =>
      by_cases small : n < 128
      · rw [Base128.encode_of_lt small, List.length_singleton, pow_one]
        exact small
      · have inner := ih (n / 128) (by omega)
        rw [Base128.encode_of_le (not_lt.mp small), List.length_cons, pow_succ]
        exact Nat.lt_mul_of_div_lt inner (by omega)

/-- With a byte limit past its length, a written number is read back. -/
theorem decode_encode_of_length {limit n : ℕ} (enough : (Base128.encode n).length ≤ limit + 1)
    (rest : List UInt8) :
    Base128.decode (limit + 1) (Base128.encode n ++ rest) = some (n, rest) :=
  Base128.decode_encode
    ((lt_pow_length_encode n).trans_le (Nat.pow_le_pow_right (by omega) enough)) rest

theorem Field.encode_ne_nil (field : Field) : field.encode ≠ [] := by
  rcases field with ⟨number, value | data⟩ <;>
    exact List.append_ne_nil_of_left_ne_nil (Base128.encode_ne_nil _) _

theorem Field.decode_encode (field : Field) (rest : List UInt8) :
    Field.decode (field.encode ++ rest) = some (field, rest) := by
  rcases field with ⟨number, value | data⟩
  · have tag : Base128.decode ((Field.encode ⟨number, .varint value⟩ ++ rest).length + 1)
        (Field.encode ⟨number, .varint value⟩ ++ rest) =
        some (8 * number, Base128.encode value ++ rest) := by
      unfold Field.encode
      rw [List.append_assoc]
      exact decode_encode_of_length (by simp only [List.length_append]; omega) _
    have read : Base128.decode ((Field.encode ⟨number, .varint value⟩ ++ rest).length + 1)
        (Base128.encode value ++ rest) = some (value, rest) :=
      decode_encode_of_length
        (by unfold Field.encode; simp only [List.length_append]; omega) _
    have kind : 8 * number % 8 = 0 := by omega
    have index : 8 * number / 8 = number := by omega
    simp only [Field.decode, tag, Option.bind_eq_bind, Option.bind_some, kind, ↓reduceIte, read,
      index, Option.pure_def]
  · have tag : Base128.decode ((Field.encode ⟨number, .bytes data⟩ ++ rest).length + 1)
        (Field.encode ⟨number, .bytes data⟩ ++ rest) =
        some (8 * number + 2, Base128.frame data ++ rest) := by
      unfold Field.encode
      rw [List.append_assoc]
      exact decode_encode_of_length (by simp only [List.length_append]; omega) _
    have read : Base128.unframe ((Field.encode ⟨number, .bytes data⟩ ++ rest).length + 1)
        (Base128.frame data ++ rest) = some (data, rest) :=
      Base128.unframe_frame ((lt_pow_length_encode data.length).trans_le
        (Nat.pow_le_pow_right (by omega)
          (by unfold Field.encode Base128.frame; simp only [List.length_append]; omega))) _
    have kind : (8 * number + 2) % 8 = 2 := by omega
    have index : (8 * number + 2) / 8 = number := by omega
    simp only [Field.decode, tag, Option.bind_eq_bind, Option.bind_some, kind, OfNat.ofNat_ne_zero,
      ↓reduceIte, read, index, Option.pure_def]

private theorem decodeUpTo_encode (fields : List Field) {limit : ℕ}
    (enough : (encode fields).length ≤ limit) : decodeUpTo limit (encode fields) = some fields := by
  induction fields generalizing limit with
  | nil => cases limit <;> rfl
  | cons field fields ih =>
      have split : encode (field :: fields) = field.encode ++ encode fields := List.flatMap_cons
      have positive := List.length_pos_iff.mpr (Field.encode_ne_nil field)
      rw [split, List.length_append] at enough
      obtain ⟨smaller, rfl⟩ : ∃ smaller, limit = smaller + 1 := ⟨limit - 1, by omega⟩
      obtain ⟨byte, bytes, nonempty⟩ : ∃ byte bytes, encode (field :: fields) = byte :: bytes :=
        List.exists_cons_of_ne_nil (by
          rw [split]
          exact List.append_ne_nil_of_left_ne_nil (Field.encode_ne_nil field) _)
      have head := Field.decode_encode field (encode fields)
      rw [← split, nonempty] at head
      rw [nonempty, decodeUpTo]
      simp only [head, Option.bind_eq_bind, Option.bind_some, ih (show _ ≤ smaller by omega),
        Option.pure_def]

/-- Reading written fields gives them back. -/
theorem decode_encode (fields : List Field) : decode (encode fields) = some fields :=
  decodeUpTo_encode fields le_rfl

/-- The fields with a given number. -/
def select (number : ℕ) (fields : List Field) : List Field :=
  fields.filter fun field => field.number = number

/-- A number field, left out when it is zero. -/
def uint (number value : ℕ) : List Field := if value = 0 then [] else [⟨number, .varint value⟩]

/-- A byte field, left out when it is empty. -/
def bytes (number : ℕ) (data : List UInt8) : List Field :=
  if data = [] then [] else [⟨number, .bytes data⟩]

/-- A nested message, present even when it is empty. -/
def message (number : ℕ) (fields : List Field) : List Field :=
  [⟨number, .bytes (encode fields)⟩]

/-- The number a field carries. -/
def asUint : Option Field → ℕ
  | some ⟨_, .varint value⟩ => value
  | _ => 0

/-- The bytes a field carries. -/
def asBytes : Option Field → List UInt8
  | some ⟨_, .bytes data⟩ => data
  | _ => []

/-- The value of a number field; the last one written counts. -/
def getUint (number : ℕ) (fields : List Field) : ℕ := asUint (select number fields).getLast?

/-- The value of a byte field. -/
def getBytes (number : ℕ) (fields : List Field) : List UInt8 :=
  asBytes (select number fields).getLast?

/-- The fields of a nested message. -/
def getMessage (number : ℕ) (fields : List Field) : Option (List Field) :=
  decode (getBytes number fields)

theorem number_of_mem_uint {number value : ℕ} {field : Field} (member : field ∈ uint number value) :
    field.number = number := by
  unfold uint at member
  split at member
  · exact absurd member List.not_mem_nil
  · rw [List.mem_singleton.mp member]

section Select

variable {number other : ℕ}

@[simp] theorem select_nil : select number [] = [] := rfl

@[simp] theorem select_append (first second : List Field) :
    select number (first ++ second) = select number first ++ select number second :=
  List.filter_append ..

@[simp] theorem select_uint (value : ℕ) :
    select number (uint other value) = if other = number then uint other value else [] := by
  unfold uint select
  split <;> split <;> simp_all

@[simp] theorem select_bytes (data : List UInt8) :
    select number (bytes other data) = if other = number then bytes other data else [] := by
  unfold bytes select
  split <;> split <;> simp_all

@[simp] theorem select_message (fields : List Field) :
    select number (message other fields) = if other = number then message other fields else [] := by
  unfold message select
  split <;> simp_all

@[simp] theorem asUint_getLast?_uint (value : ℕ) : asUint (uint number value).getLast? = value := by
  by_cases zero : value = 0
  · subst zero
    rfl
  · simp only [uint, zero, ↓reduceIte, List.getLast?_singleton, asUint]

@[simp] theorem asBytes_getLast?_bytes (data : List UInt8) :
    asBytes (bytes number data).getLast? = data := by
  by_cases empty : data = []
  · subst empty
    rfl
  · simp only [bytes, empty, ↓reduceIte, List.getLast?_singleton, asBytes]

@[simp] theorem asBytes_getLast?_message (fields : List Field) :
    asBytes (message number fields).getLast? = encode fields := rfl

end Select

section Lengths

variable {number : ℕ}

@[simp] theorem encode_append (first second : List Field) :
    encode (first ++ second) = encode first ++ encode second :=
  List.flatMap_append

/-- A byte field with a low number and fewer than 16,384 bytes takes three bytes more. -/
theorem length_bytes_le {data : List UInt8} (low : number < 15) (fits : data.length < 128 ^ 2) :
    (encode [⟨number, .bytes data⟩]).length ≤ data.length + 3 := by
  have tag : (Base128.encode (8 * number + 2)).length ≤ 1 :=
    Base128.length_encode_le (by omega)
  have value := Base128.length_frame_le fits
  simp only [encode, List.flatMap_singleton, Field.encode, List.length_append]
  omega

theorem le_length_bytes (data : List UInt8) :
    data.length ≤ (encode [⟨number, .bytes data⟩]).length := by
  have value := Base128.le_length_frame data
  simp only [encode, List.flatMap_singleton, Field.encode, List.length_append]
  omega

/-- A number field with a low number takes one byte more than its value. -/
theorem length_uint_le {value k : ℕ} (low : number < 15) (fits : value < 128 ^ (k + 1)) :
    (encode (uint number value)).length ≤ k + 2 := by
  unfold uint
  by_cases zero : value = 0
  · rw [if_pos zero]
    exact Nat.zero_le _
  · rw [if_neg zero]
    have tag : (Base128.encode (8 * number)).length ≤ 1 := Base128.length_encode_le (by omega)
    have written := Base128.length_encode_le fits
    simp only [encode, List.flatMap_singleton, Field.encode, List.length_append]
    omega

end Lengths

end Tagged
