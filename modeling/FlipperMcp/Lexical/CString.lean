import Mathlib.Algebra.Ring.Nat
import Mathlib.Data.Int.Notation
import Mathlib.Data.List.TakeWhile

/-! # Strings of C

The string in a buffer is what stands before its first NUL. A string is modelled by these
bytes; a function that fills a field of a fixed size is modelled by what the field then holds.
-/

namespace CString

/-- The bytes of an ASCII text. -/
def ascii (text : String) : List UInt8 := text.toList.map Char.toUInt8

/-- The string in front of what `strchr` finds, or all of it. -/
def before (stop : UInt8) (string : List UInt8) : List UInt8 := string.takeWhile (· ≠ stop)

/-- The string in a buffer. -/
def text (buffer : List UInt8) : List UInt8 := before 0 buffer

/-- `strstr`: the string from the first occurrence on. -/
def strstr (needle : List UInt8) : List UInt8 → Option (List UInt8)
  | [] => if needle = [] then some [] else none
  | c :: rest => if needle.isPrefixOf (c :: rest) then some (c :: rest) else strstr needle rest

/-- What a zeroed field of a size holds after `strncpy(field, string, n)`. -/
def strncpy (size n : ℕ) (string : List UInt8) : List UInt8 :=
  string.take n ++ List.replicate (size - (string.take n).length) 0

/-- `isspace` in the C locale. -/
def isspace (c : UInt8) : Bool := c = 32 ∨ (9 ≤ c ∧ c ≤ 13)

/-- The value of a hexadecimal digit. -/
def hexDigit? (c : UInt8) : Option ℕ :=
  if 48 ≤ c ∧ c ≤ 57 then some (c.toNat - 48)
  else if 65 ≤ c ∧ c ≤ 70 then some (c.toNat - 55)
  else if 97 ≤ c ∧ c ≤ 102 then some (c.toNat - 87)
  else none

/-- The number of the hexadecimal digits in front. -/
def leadingHex (value : ℕ) : List UInt8 → ℕ
  | [] => value
  | c :: rest =>
      match hexDigit? c with
      | some digit => leadingHex (16 * value + digit) rest
      | none => value

/-- `strtol(string, NULL, 16)`, for strings in which no digit stands behind a `0x`. -/
def strtol16 (string : List UInt8) : ℤ :=
  let number := string.dropWhile isspace
  match number with
  | [] => 0
  | c :: rest =>
      if c = 45 then -(leadingHex 0 rest : ℤ)
      else if c = 43 then (leadingHex 0 rest : ℤ)
      else (leadingHex 0 number : ℤ)

/-- The conversion to `char`. -/
def toChar (value : ℤ) : UInt8 := UInt8.ofNat (value % 256).toNat

/-- A stop that stands behind the string cuts there. -/
theorem before_append {stop : UInt8} {string : List UInt8} (free : stop ∉ string)
    (behind : List UInt8) : before stop (string ++ stop :: behind) = string := by
  have kept : ∀ c ∈ string, decide (c ≠ stop) = true :=
    fun c present => decide_eq_true fun same => free (same ▸ present)
  unfold before
  rw [List.takeWhile_append_of_pos kept, List.takeWhile_cons_of_neg (by simp), List.append_nil]

/-- One that does not occur cuts nothing off. -/
theorem before_eq {stop : UInt8} {string : List UInt8} (free : stop ∉ string) :
    before stop string = string :=
  List.takeWhile_eq_self_iff.mpr fun _ present => decide_eq_true fun same => free (same ▸ present)

/-- What a field is read back as. -/
theorem text_strncpy {size n : ℕ} {string : List UInt8} (free : (0 : UInt8) ∉ string) :
    text (strncpy size n string) = string.take n := by
  have kept : (0 : UInt8) ∉ string.take n := fun present => free (List.mem_of_mem_take present)
  unfold strncpy text
  cases size - (string.take n).length with
  | zero => rw [List.replicate_zero, List.append_nil, before_eq kept]
  | succ k => exact before_append kept _

/-- Where the needle stands in front. -/
theorem strstr_of_front {needle string : List UInt8} (front : needle <+: string) :
    strstr needle string = some string := by
  cases string with
  | nil => exact if_pos (List.prefix_nil.mp front)
  | cons c rest => exact if_pos (List.isPrefixOf_iff_prefix.mpr front)

/-- A part in front in which no occurrence begins is passed. -/
theorem strstr_append {needle passed : List UInt8} {string : List UInt8}
    (absent : ∀ front rest, passed = front ++ rest → rest ≠ [] → ¬ needle <+: rest ++ string) :
    strstr needle (passed ++ string) = strstr needle string := by
  induction passed with
  | nil => rfl
  | cons c passed ih =>
      have here := absent [] (c :: passed) rfl (List.cons_ne_nil c passed)
      rw [List.cons_append] at here ⊢
      rw [strstr, if_neg (mt List.isPrefixOf_iff_prefix.mp here)]
      exact ih fun front rest split => absent (c :: front) rest (congrArg (c :: ·) split)

/-- So is one without the first character of the needle. -/
theorem strstr_append_of_head {first : UInt8} {needle passed : List UInt8} (absent : first ∉ passed)
    (string : List UInt8) : strstr (first :: needle) (passed ++ string) = strstr (first :: needle) string := by
  apply strstr_append
  intro front rest split nonempty front_
  cases rest with
  | nil => exact nonempty rfl
  | cons c rest =>
      obtain ⟨same, -⟩ := List.cons_prefix_cons.mp front_
      refine absent ?_
      rw [split, same]
      exact List.mem_append_right _ (List.mem_cons_self ..)

/-- And one that ends in a foreign character and lacks a character of the needle. -/
theorem strstr_append_of_stop {c stop : UInt8} {needle passed : List UInt8} (inside : c ∈ needle)
    (absent : c ∉ passed ++ [stop]) (foreign : stop ∉ needle) (string : List UInt8) :
    strstr needle (passed ++ stop :: string) = strstr needle string := by
  rw [List.append_cons]
  apply strstr_append
  intro front rest split nonempty occurs
  have rest_ : rest <+: rest ++ string := List.prefix_append rest string
  rcases Nat.le_total needle.length rest.length with shorter | longer
  · have within := (List.prefix_of_prefix_length_le occurs rest_ shorter).subset inside
    exact absent (split ▸ List.mem_append_right front within)
  · have last : stop ∈ rest := by
      obtain ⟨init, x, rfl⟩ := (List.eq_nil_or_concat rest).resolve_left nonempty
      rw [List.concat_eq_append, ← List.append_assoc] at split
      obtain rfl := List.singleton_inj.mp (List.append_inj' split rfl).2
      rw [List.concat_eq_append]
      exact List.mem_append_right init (List.mem_singleton_self stop)
    exact foreign ((List.prefix_of_prefix_length_le rest_ occurs longer).subset last)

end CString
