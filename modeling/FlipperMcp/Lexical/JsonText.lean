import Mathlib.Algebra.Ring.Nat
import Mathlib.Data.Int.Notation
import Mathlib.Data.List.Basic

/-! # Texts of JSON

A reader of RFC 8259 texts. A value keeps the members of its objects in order, a string is the
list of its code points, and a number is its digits and their exponent.

What a string literal reads back as is compared with the characters that were put between its
quotes (`stringTail_quoted`): the characters themselves, if no quote, backslash or control
character is among them, and otherwise something else.
-/

namespace JsonText

inductive Value
  | null
  | bool (value : Bool)
  | number (significand exponent : ℤ)
  | string (text : List ℕ)
  | array (items : List Value)
  | object (members : List (List ℕ × Value))

def quote : Char := '\x22'

def backslash : Char := '\x5c'

/-- White space between the tokens. -/
def isBlank (c : Char) : Bool := c = ' ' ∨ c = '\t' ∨ c = '\n' ∨ c = '\r'

/-- Drop white space. -/
def skip (text : List Char) : List Char := text.dropWhile isBlank

/-- What stands behind a structural character. -/
def expect (c : Char) (text : List Char) : Option (List Char) :=
  match skip text with
  | [] => none
  | first :: rest => if first = c then some rest else none

/-! ## Strings -/

def hexValue? (c : Char) : Option ℕ :=
  if '0' ≤ c ∧ c ≤ '9' then some (c.toNat - 48)
  else if 'A' ≤ c ∧ c ≤ 'F' then some (c.toNat - 55)
  else if 'a' ≤ c ∧ c ≤ 'f' then some (c.toNat - 87)
  else none

/-- The code unit of four digits. -/
def unit? : List Char → Option (ℕ × List Char)
  | a :: b :: c :: d :: rest =>
      (hexValue? a).bind fun a => (hexValue? b).bind fun b => (hexValue? c).bind fun c =>
        (hexValue? d).map fun d => (((a * 16 + b) * 16 + c) * 16 + d, rest)
  | _ => none

/-- The escaped low surrogate behind a high one, joined with it. -/
def pair? (high : ℕ) : List Char → Option (ℕ × List Char)
  | first :: second :: rest =>
      if 0xD800 ≤ high ∧ high < 0xDC00 ∧ first = backslash ∧ second = 'u' then
        (unit? rest).bind fun low =>
          if 0xDC00 ≤ low.1 ∧ low.1 < 0xE000 then
            some (0x10000 + (high - 0xD800) * 0x400 + (low.1 - 0xDC00), low.2)
          else none
      else none
  | _ => none

/-- What a single character stands for behind a backslash. -/
def single? (c : Char) : Option ℕ :=
  if c = quote ∨ c = backslash ∨ c = '/' then some c.toNat
  else if c = 'b' then some 8
  else if c = 'f' then some 12
  else if c = 'n' then some 10
  else if c = 'r' then some 13
  else if c = 't' then some 9
  else none

/-- An escape, behind its backslash. -/
def escape? : List Char → Option (ℕ × List Char)
  | [] => none
  | c :: rest =>
      if c = 'u' then (unit? rest).map fun unit => (pair? unit.1 unit.2).getD unit
      else (single? c).map fun code => (code, rest)

/-- A string literal behind its opening quote. -/
def stringTail : ℕ → List Char → Option (List ℕ × List Char)
  | fuel + 1, c :: rest =>
      if c = quote then some ([], rest)
      else if c = backslash then
        (escape? rest).bind fun escaped =>
          (stringTail fuel escaped.2).map fun tail => (escaped.1 :: tail.1, tail.2)
      else if c.toNat < 0x20 then none
      else (stringTail fuel rest).map fun tail => (c.toNat :: tail.1, tail.2)
  | _, _ => none

/-- A string literal. -/
def string (text : List Char) : Option (List ℕ × List Char) :=
  (expect quote text).bind fun rest => stringTail (rest.length + 1) rest

/-! ## Numbers -/

/-- The number of decimal digits. -/
def natOf (digits : List Char) : ℕ := digits.foldl (fun value d => 10 * value + (d.toNat - 48)) 0

/-- The digits in front. -/
def digits (text : List Char) : List Char × List Char :=
  (text.takeWhile Char.isDigit, text.dropWhile Char.isDigit)

/-- The digits behind a point, if there is one. -/
def fraction (text : List Char) : Option (List Char × List Char) :=
  if text.head? = some '.' then
    if (digits text.tail).1 = [] then none else some (digits text.tail)
  else some ([], text)

/-- The exponent, if there is one. -/
def exponent (text : List Char) : Option (ℤ × List Char) :=
  if text.head? = some 'e' ∨ text.head? = some 'E' then
    let signed := text.tail.head? = some '-' ∨ text.tail.head? = some '+'
    let read := digits (if signed then text.tail.tail else text.tail)
    if read.1 = [] then none
    else some (if text.tail.head? = some '-' then -(natOf read.1 : ℤ) else (natOf read.1 : ℤ), read.2)
  else some (0, text)

/-- A number behind its sign. -/
def unsigned (negative : Bool) (text : List Char) : Option (Value × List Char) :=
  if (digits text).1 = [] ∨ ((digits text).1.head? = some '0' ∧ 1 < (digits text).1.length) then none
  else
    (fraction (digits text).2).bind fun fraction =>
      (exponent fraction.2).map fun exponent =>
        let significand : ℤ := natOf ((digits text).1 ++ fraction.1)
        (.number (if negative then -significand else significand)
          (exponent.1 - (fraction.1.length : ℤ)), exponent.2)

/-- A number. -/
def number (text : List Char) : Option (Value × List Char) :=
  if text.head? = some '-' then unsigned true text.tail else unsigned false text

/-! ## Values -/

/-- A literal name or a number. -/
def scalar (text : List Char) : Option (Value × List Char) :=
  if ['n', 'u', 'l', 'l'].isPrefixOf text then some (.null, text.drop 4)
  else if ['t', 'r', 'u', 'e'].isPrefixOf text then some (.bool true, text.drop 4)
  else if ['f', 'a', 'l', 's', 'e'].isPrefixOf text then some (.bool false, text.drop 5)
  else number text

/-- Behind one item: a comma and more of them, or the closing character. -/
def separated {α : Type} (close : Char) (more : List Char → Option (List α × List Char)) (first : α)
    (text : List Char) : Option (List α × List Char) :=
  match expect ',' text with
  | some rest => (more rest).map fun later => (first :: later.1, later.2)
  | none => (expect close text).map fun rest => ([first], rest)

mutual

/-- A value. -/
def value : ℕ → List Char → Option (Value × List Char)
  | fuel + 1, text =>
      match skip text with
      | [] => none
      | c :: rest =>
          if c = quote then (string (c :: rest)).map fun read => (.string read.1, read.2)
          else if c = '[' then
            match expect ']' rest with
            | some rest => some (.array [], rest)
            | none => (elements fuel rest).map fun read => (.array read.1, read.2)
          else if c = '\x7b' then
            match expect '\x7d' rest with
            | some rest => some (.object [], rest)
            | none => (members fuel rest).map fun read => (.object read.1, read.2)
          else scalar (c :: rest)
  | 0, _ => none

/-- The elements of an array and its closing bracket. -/
def elements : ℕ → List Char → Option (List Value × List Char)
  | fuel + 1, text =>
      (value fuel text).bind fun first => separated ']' (elements fuel) first.1 first.2
  | 0, _ => none

/-- The members of an object and its closing brace. -/
def members : ℕ → List Char → Option (List (List ℕ × Value) × List Char)
  | fuel + 1, text =>
      (string text).bind fun name => (expect ':' name.2).bind fun rest =>
        (value fuel rest).bind fun first =>
          separated '\x7d' (members fuel) (name.1, first.1) first.2
  | 0, _ => none

end

/-- A text that is one value. -/
def parse (text : List Char) : Option Value :=
  (value (text.length + 1) text).bind fun read => if skip read.2 = [] then some read.1 else none

/-! ## What is read back -/

/-- It stands for itself in a string literal. -/
def Clean (c : Char) : Prop := c ≠ quote ∧ c ≠ backslash ∧ 0x20 ≤ c.toNat

instance : DecidablePred Clean := fun _ => inferInstanceAs (Decidable (_ ∧ _ ∧ _))

section Strings

variable {fuel : ℕ} {text rest : List Char}

theorem clean_of_all {x : List Char} (all : x.all (fun c => decide (Clean c)) = true) : ∀ c ∈ x, Clean c :=
  fun c member => of_decide_eq_true (List.all_eq_true.mp all c member)

theorem stringTail_clean {x : List Char} (clean : ∀ c ∈ x, Clean c) (enough : x.length < fuel)
    (rest : List Char) : stringTail fuel (x ++ quote :: rest) = some (x.map Char.toNat, rest) := by
  induction x generalizing fuel with
  | nil =>
      cases fuel with
      | zero => exact absurd enough (Nat.not_lt_zero _)
      | succ fuel => exact if_pos rfl
  | cons c x ih =>
      cases fuel with
      | zero => exact absurd enough (Nat.not_lt_zero _)
      | succ fuel =>
          obtain ⟨noQuote, noBackslash, printable⟩ := clean c (List.mem_cons_self ..)
          have later := ih (fun d present => clean d (List.mem_cons_of_mem c present))
            (Nat.lt_of_succ_lt_succ enough)
          rw [List.cons_append, stringTail, if_neg noQuote, if_neg noBackslash,
            if_neg (Nat.not_lt.mpr printable), later]
          rfl

theorem hexValue?_quote : hexValue? quote = none := by decide

theorem unit?_used {unit : ℕ × List Char} (found : unit? text = some unit) :
    ∃ used, text = used ++ unit.2 ∧ quote ∉ used := by
  unfold unit? at found
  split at found
  next a b c d rest =>
    obtain ⟨first, isFirst, found⟩ := Option.bind_eq_some_iff.mp found
    obtain ⟨second, isSecond, found⟩ := Option.bind_eq_some_iff.mp found
    obtain ⟨third, isThird, found⟩ := Option.bind_eq_some_iff.mp found
    obtain ⟨fourth, isFourth, rfl⟩ := Option.map_eq_some_iff.mp found
    refine ⟨[a, b, c, d], rfl, fun present => ?_⟩
    have none_ := hexValue?_quote
    rcases List.mem_cons.mp present with rfl | present
    · exact nomatch none_.symm.trans isFirst
    rcases List.mem_cons.mp present with rfl | present
    · exact nomatch none_.symm.trans isSecond
    rcases List.mem_cons.mp present with rfl | present
    · exact nomatch none_.symm.trans isThird
    · obtain rfl := List.mem_singleton.mp present
      exact nomatch none_.symm.trans isFourth
  next => exact nomatch found

theorem pair?_used {high : ℕ} {unit : ℕ × List Char} (found : pair? high text = some unit) :
    ∃ used, text = used ++ unit.2 ∧ quote ∉ used := by
  unfold pair? at found
  split at found
  next first second rest =>
    split at found
    next joined =>
      obtain ⟨low, isLow, found⟩ := Option.bind_eq_some_iff.mp found
      split at found
      next inside =>
        obtain rfl := Option.some.inj found
        obtain ⟨used, rfl, free⟩ := unit?_used isLow
        obtain ⟨-, -, rfl, rfl⟩ := joined
        refine ⟨backslash :: 'u' :: used, rfl, fun present => ?_⟩
        rcases List.mem_cons.mp present with same | present
        · exact absurd same (by decide)
        rcases List.mem_cons.mp present with same | present
        · exact absurd same (by decide)
        · exact free present
      next => exact nomatch found
    next => exact nomatch found
  next => exact nomatch found

/-- An escape takes a character at least, and no quote but a single one. -/
theorem escape?_used {escaped : ℕ × List Char} (found : escape? text = some escaped) :
    ∃ c used, text = c :: used ++ escaped.2 ∧ quote ∉ used ∧ (c = quote → used = []) := by
  unfold escape? at found
  split at found
  next => exact nomatch found
  next c rest =>
    split at found
    next isU =>
      obtain ⟨unit, isUnit, rfl⟩ := Option.map_eq_some_iff.mp found
      obtain ⟨used, rfl, free⟩ := unit?_used isUnit
      have noQuote : c ≠ quote := fun same => absurd (isU.symm.trans same) (by decide)
      cases paired : pair? unit.1 unit.2 with
      | none => exact ⟨c, used, rfl, free, fun same => absurd same noQuote⟩
      | some pair =>
          obtain ⟨more, behind, freeMore⟩ := pair?_used paired
          refine ⟨c, used ++ more, ?_, fun present => ?_, fun same => absurd same noQuote⟩
          · rw [behind, List.cons_append, List.append_assoc]
            rfl
          · exact (List.mem_append.mp present).elim free freeMore
    next =>
      obtain ⟨code, -, rfl⟩ := Option.map_eq_some_iff.mp found
      exact ⟨c, [], rfl, List.not_mem_nil, fun _ => rfl⟩

/-- What was taken stands in front of the closing quote, unless it is this quote. -/
theorem used_within {c : Char} {used left x s : List Char} (split : x ++ quote :: s = c :: used ++ left)
    (free : quote ∉ used) (alone : c = quote → used = []) :
    (x = [] ∧ left = s) ∨ ∃ y, x = c :: used ++ y ∧ left = y ++ quote :: s := by
  cases x with
  | nil =>
      obtain ⟨same, behind⟩ := List.cons.inj split
      rw [alone same.symm] at behind
      exact .inl ⟨rfl, behind.symm⟩
  | cons e x =>
      right
      obtain ⟨rfl, behind⟩ := List.cons.inj split
      rcases List.append_eq_append_iff.mp behind with ⟨a, taken, last⟩ | ⟨a, split, last⟩
      · cases a with
        | nil =>
            rw [List.append_nil] at taken
            exact ⟨[], by rw [taken, List.append_nil], last.symm⟩
        | cons d a =>
            obtain ⟨rfl, -⟩ := List.cons.inj last
            exact absurd (taken ▸ List.mem_append_right x (List.mem_cons_self ..)) free
      · exact ⟨a, congrArg (e :: ·) split, last⟩

/-- How a literal reads that was made by putting `x` between quotes. -/
inductive Quoted (x rest : List Char) : List ℕ × List Char → Prop
  | itself (clean : ∀ c ∈ x, Clean c) : Quoted x rest (x.map Char.toNat, rest)
  | shorter {read : List ℕ × List Char} (less : read.1.length < x.length) : Quoted x rest read
  /-- It has lost its closing quote to a backslash, and reads on to the next one. -/
  | beyond {read : List ℕ × List Char} (comma : read.1.getLast? = some 44)
      (open_ : x.getLast? = some backslash) : Quoted x rest read

theorem stringTail_comma {later : List Char} {read : List ℕ × List Char}
    (found : stringTail fuel (',' :: quote :: later) = some read) : read.1 = [44] := by
  cases fuel with
  | zero => exact nomatch found
  | succ fuel =>
      obtain ⟨tail, isTail, rfl⟩ := Option.map_eq_some_iff.mp
        ((stringTail.eq_1 fuel ',' (quote :: later)).symm.trans found)
      cases fuel with
      | zero => exact nomatch isTail
      | succ fuel =>
          obtain rfl := Option.some.inj ((if_pos rfl).symm.trans isTail)
          rfl

/-- **What a string literal reads back as.** -/
theorem stringTail_quoted {x : List Char} {read : List ℕ × List Char} {later : List Char}
    (found : stringTail fuel (x ++ quote :: ',' :: quote :: later) = some read) :
    Quoted x (',' :: quote :: later) read := by
  induction fuel generalizing x read with
  | zero => exact nomatch found
  | succ fuel ih =>
      cases x with
      | nil =>
          obtain rfl := Option.some.inj ((if_pos rfl).symm.trans found)
          exact .itself fun c present => absurd present List.not_mem_nil
      | cons c x =>
          rw [List.cons_append, stringTail] at found
          by_cases isQuote : c = quote
          · rw [if_pos isQuote] at found
            obtain rfl := Option.some.inj found
            exact .shorter (Nat.zero_lt_succ _)
          rw [if_neg isQuote] at found
          by_cases isBackslash : c = backslash
          · subst isBackslash
            rw [if_pos rfl] at found
            obtain ⟨escaped, isEscape, found⟩ := Option.bind_eq_some_iff.mp found
            obtain ⟨tail, isTail, rfl⟩ := Option.map_eq_some_iff.mp found
            obtain ⟨e, used, split, free, alone⟩ := escape?_used isEscape
            rcases used_within split free alone with ⟨rfl, left⟩ | ⟨y, rfl, left⟩
            · rw [left] at isTail
              refine .beyond ?_ rfl
              rw [stringTail_comma isTail]
              rfl
            · rw [left] at isTail
              cases ih isTail with
              | itself clean =>
                  refine .shorter ?_
                  simp only [List.length_cons, List.length_map, List.length_append]
                  omega
              | shorter less =>
                  refine .shorter ?_
                  simp only [List.length_cons, List.length_append]
                  omega
              | beyond comma open_ =>
                  refine .beyond ?_ ?_
                  · rw [List.getLast?_cons, comma]
                    rfl
                  · rw [List.cons_append, List.getLast?_cons, List.getLast?_cons, List.getLast?_append,
                      open_]
                    rfl
          rw [if_neg isBackslash] at found
          by_cases control : c.toNat < 0x20
          · rw [if_pos control] at found
            exact nomatch found
          rw [if_neg control] at found
          obtain ⟨tail, isTail, rfl⟩ := Option.map_eq_some_iff.mp found
          cases ih isTail with
          | itself clean =>
              refine .itself fun d present => ?_
              rcases List.mem_cons.mp present with rfl | present
              · exact ⟨isQuote, isBackslash, Nat.le_of_not_lt control⟩
              · exact clean d present
          | shorter less => exact .shorter (Nat.succ_lt_succ less)
          | beyond comma open_ =>
              refine .beyond ?_ ?_
              · rw [List.getLast?_cons, comma]
                rfl
              · rw [List.getLast?_cons, open_]
                rfl

/-- Where it reads back as it was, it stood for itself. -/
theorem Quoted.whole {x rest : List Char} {read : List ℕ × List Char} (h : Quoted x rest read)
    (same : read.1 = x.map Char.toNat) : (∀ c ∈ x, Clean c) ∧ read.2 = rest := by
  cases h with
  | itself clean => exact ⟨clean, rfl⟩
  | shorter less =>
      rw [same, List.length_map] at less
      exact absurd less (Nat.lt_irrefl _)
  | beyond comma open_ =>
      rw [same, List.getLast?_map, open_] at comma
      exact absurd comma (by decide)

theorem string_clean {x : List Char} (clean : ∀ c ∈ x, Clean c) (rest : List Char) :
    string (quote :: (x ++ quote :: rest)) = some (x.map Char.toNat, rest) := by
  refine stringTail_clean clean ?_ rest
  rw [List.length_append]
  exact Nat.lt_succ_of_le (Nat.le_add_right _ _)

end Strings

/-! ## Numbers that are read back -/

/-- The digits of a number in decimal notation. -/
def IsNatural (digits : List Char) (n : ℕ) : Prop :=
  digits.all Char.isDigit = true ∧ digits ≠ [] ∧ ¬ (digits.head? = some '0' ∧ 1 < digits.length) ∧
    natOf digits = n

instance (digits : List Char) (n : ℕ) : Decidable (IsNatural digits n) :=
  inferInstanceAs (Decidable (_ ∧ _ ∧ _ ∧ _))

theorem digits_append {front : List Char} (all : front.all Char.isDigit = true) {c : Char}
    (stop : c.isDigit = false) (rest : List Char) : digits (front ++ c :: rest) = (front, c :: rest) := by
  have kept : ∀ d ∈ front, d.isDigit = true := List.all_eq_true.mp all
  have cut : ¬ c.isDigit = true := Bool.eq_false_iff.mp stop
  unfold digits
  rw [List.takeWhile_append_of_pos kept, List.dropWhile_append_of_pos kept,
    List.takeWhile_cons_of_neg cut, List.dropWhile_cons_of_neg cut, List.append_nil]

theorem fraction_close (rest : List Char) :
    fraction ('\x7d' :: rest) = some ([], '\x7d' :: rest) :=
  if_neg fun point => absurd (Option.some.inj point) (by decide)

theorem exponent_close (rest : List Char) : exponent ('\x7d' :: rest) = some (0, '\x7d' :: rest) :=
  if_neg fun letter => letter.elim (fun e => absurd (Option.some.inj e) (by decide))
    fun e => absurd (Option.some.inj e) (by decide)

theorem unsigned_natural {digits : List Char} {n : ℕ} (natural : IsNatural digits n) (negative : Bool)
    (rest : List Char) : unsigned negative (digits ++ '\x7d' :: rest) =
      some (.number (if negative then -(n : ℤ) else (n : ℤ)) 0, '\x7d' :: rest) := by
  obtain ⟨all, some_, short, rfl⟩ := natural
  unfold unsigned
  rw [digits_append all (by decide), if_neg (not_or.mpr ⟨some_, short⟩), fraction_close,
    Option.bind_some, exponent_close, Option.map_some, List.append_nil]
  rfl

/-- A number in front of the end of an object. -/
theorem number_natural {digits : List Char} {n : ℕ} (natural : IsNatural digits n) (rest : List Char) :
    number (digits ++ '\x7d' :: rest) = some (.number n 0, '\x7d' :: rest) := by
  have sign : ¬ (digits ++ '\x7d' :: rest).head? = some '-' := by
    obtain ⟨all, some_, -, -⟩ := natural
    cases digits with
    | nil => exact absurd rfl some_
    | cons c digits =>
        intro minus
        obtain rfl := Option.some.inj minus
        exact absurd (List.all_eq_true.mp all _ (List.mem_cons_self ..)) (by decide)
  exact (if_neg sign).trans (unsigned_natural natural false rest)

theorem number_negative {digits : List Char} {n : ℕ} (natural : IsNatural digits n) (rest : List Char) :
    number ('-' :: digits ++ '\x7d' :: rest) = some (.number (-(n : ℤ)) 0, '\x7d' :: rest) :=
  (if_pos rfl).trans (unsigned_natural natural true rest)

/-! ## Structure -/

section Structure

variable {fuel : ℕ} {text rest : List Char}

theorem skip_cons {c : Char} (solid : isBlank c = false) : skip (c :: text) = c :: text :=
  List.dropWhile_cons_of_neg (Bool.eq_false_iff.mp solid)

theorem expect_self {c : Char} (solid : isBlank c = false) : expect c (c :: text) = some text := by
  unfold expect
  rw [skip_cons solid]
  exact if_pos rfl

theorem expect_other {c d : Char} (solid : isBlank c = false) (different : c ≠ d) :
    expect d (c :: text) = none := by
  unfold expect
  rw [skip_cons solid]
  exact if_neg different

theorem separated_comma {α : Type} (close : Char) (more : List Char → Option (List α × List Char))
    (first : α) : separated close more first (',' :: text) =
      (more text).map fun later => (first :: later.1, later.2) := by
  unfold separated
  rw [expect_self rfl]

theorem separated_close {α : Type} {close : Char} (more : List Char → Option (List α × List Char))
    (first : α) (solid : isBlank close = false) (noComma : close ≠ ',') :
    separated close more first (close :: text) = some ([first], text) := by
  unfold separated
  rw [expect_other solid noComma, expect_self solid]
  rfl

theorem separated_first {α : Type} {close : Char} {more : List Char → Option (List α × List Char)}
    {first : α} {read : List α × List Char} (found : separated close more first text = some read) :
    ∃ later, read.1 = first :: later := by
  unfold separated at found
  cases comma : expect ',' text with
  | some rest =>
      rw [comma] at found
      obtain ⟨later, -, rfl⟩ := Option.map_eq_some_iff.mp found
      exact ⟨later.1, rfl⟩
  | none =>
      rw [comma] at found
      obtain ⟨rest, -, rfl⟩ := Option.map_eq_some_iff.mp found
      exact ⟨[], rfl⟩

theorem value_string : value (fuel + 1) (quote :: text) =
    (string (quote :: text)).map fun read => (.string read.1, read.2) := by
  unfold value
  rw [skip_cons (by decide)]
  exact if_pos rfl

theorem value_object : value (fuel + 1) ('\x7b' :: quote :: text) =
    (members fuel (quote :: text)).map fun read => (.object read.1, read.2) := by
  unfold value
  rw [skip_cons (by decide)]
  simp only [(expect_other (by decide) (by decide) : expect '\x7d' (quote :: text) = none)]
  rfl

theorem value_array : value (fuel + 1) ('[' :: '\x7b' :: text) =
    (elements fuel ('\x7b' :: text)).map fun read => (.array read.1, read.2) := by
  unfold value
  rw [skip_cons (by decide)]
  simp only [(expect_other (by decide) (by decide) : expect ']' ('\x7b' :: text) = none)]
  rfl

theorem value_empty : value (fuel + 1) ('[' :: ']' :: text) = some (.array [], text) := by
  unfold value
  rw [skip_cons (by decide)]
  simp only [(expect_self (by decide) : expect ']' (']' :: text) = some text)]
  rfl

/-- A number begins with a digit or a sign. -/
theorem value_number {c : Char} (begins : c.isDigit = true ∨ c = '-') :
    value (fuel + 1) (c :: text) = number (c :: text) := by
  have kinds : isBlank c = false ∧ c ≠ quote ∧ c ≠ '[' ∧ c ≠ '\x7b' ∧ c ≠ 'n' ∧ c ≠ 't' ∧ c ≠ 'f' := by
    refine ⟨Bool.eq_false_iff.mpr fun blank => ?_, ?_, ?_, ?_, ?_, ?_, ?_⟩
    · rcases of_decide_eq_true blank with rfl | rfl | rfl | rfl <;> exact absurd begins (by decide)
    all_goals
      rintro rfl
      exact absurd begins (by decide)
  obtain ⟨solid, noQuote, noBracket, noBrace, noNull, noTrue, noFalse⟩ := kinds
  unfold value
  rw [skip_cons solid]
  simp only [if_neg noQuote, if_neg noBracket, if_neg noBrace]
  unfold scalar
  have other : ∀ {d : Char} {ds : List Char}, c ≠ d → ¬ (d :: ds).isPrefixOf (c :: text) = true :=
    fun different front => different (List.cons_prefix_cons.mp (List.isPrefixOf_iff_prefix.mp front)).1.symm
  rw [if_neg (other noNull), if_neg (other noTrue), if_neg (other noFalse)]

end Structure

end JsonText
