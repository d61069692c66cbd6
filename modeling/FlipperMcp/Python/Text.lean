import Mathlib.Algebra.Ring.Nat
import Mathlib.Data.List.Infix

/-! # Python's text methods

The methods of `str` and `bytes` the source uses. Lowered text is only ever
searched for, or compared with, ASCII texts. Outside ASCII `lower` therefore
follows the two characters whose lower case holds an ASCII letter and keeps the
others.
-/

namespace Python

/-- `str.isspace` of one character. -/
def isSpace (c : Char) : Bool :=
  c.toNat ∈ [0x9, 0xA, 0xB, 0xC, 0xD, 0x1C, 0x1D, 0x1E, 0x1F, 0x20, 0x85, 0xA0, 0x1680, 0x2028,
    0x2029, 0x202F, 0x205F, 0x3000] || (0x2000 ≤ c.toNat && c.toNat ≤ 0x200A)

/-- `text.strip()`. -/
def strip (text : String) : String :=
  String.ofList ((text.toList.dropWhile isSpace).reverse.dropWhile isSpace).reverse

/-- The lower case of one character; the dotted capital I becomes two. -/
def lowerChar (c : Char) : List Char :=
  if c.toNat = 0x130 then ['i', Char.ofNat 0x307]
  else if c.toNat = 0x212A then ['k']
  else [c.toLower]

/-- `text.lower()`. -/
def lower (text : String) : String := String.ofList (text.toList.flatMap lowerChar)

/-- `part in text`. -/
def contains (part text : String) : Bool := decide (part.toList <:+: text.toList)

/-- `text.startswith(part)`. -/
def startsWith (part text : String) : Bool := decide (part.toList <+: text.toList)

/-- `text.split()`. -/
def split (text : String) : List String :=
  ((text.toList.splitOnP isSpace).filter (· ≠ [])).map String.ofList

/-- `text.rsplit("/", 1)[0]` of a text that holds a slash. -/
def beforeLastSlash (text : String) : String :=
  String.ofList ((text.toList.reverse.dropWhile (· ≠ '/')).drop 1).reverse

/-- The characters that end a line for `str.splitlines`. -/
def isLineEnd (c : Char) : Bool :=
  c.toNat ∈ [0xA, 0xB, 0xC, 0xD, 0x1C, 0x1D, 0x1E, 0x85, 0x2028, 0x2029]

/-- The lines of a text, the first of them behind what was read of it. -/
def linesFrom (line : List Char) : List Char → List (List Char)
  | [] => if line = [] then [] else [line]
  | '\r' :: '\n' :: rest => line :: linesFrom [] rest
  | c :: rest => if isLineEnd c then line :: linesFrom [] rest else linesFrom (line ++ [c]) rest

/-- `text.splitlines()`. -/
def splitlines (text : String) : List String := (linesFrom [] text.toList).map String.ofList

/-- Replace the occurrences of a part from left to right, past the characters that
belong to the last one. -/
def replaceFrom (part new : List Char) : ℕ → List Char → List Char
  | _, [] => []
  | skip + 1, _ :: rest => replaceFrom part new skip rest
  | 0, c :: rest =>
      if part <+: c :: rest then new ++ replaceFrom part new (part.length - 1) rest
      else c :: replaceFrom part new 0 rest

/-- `text.replace(part, new)` for a part that is not empty. -/
def replace (part new text : String) : String :=
  String.ofList (replaceFrom part.toList new.toList 0 text.toList)

/-- The ranges of the bytes that continue a UTF-8 character begun by `lead`. -/
def continuations (lead : UInt8) : List (UInt8 × UInt8) :=
  if 0xC2 ≤ lead ∧ lead ≤ 0xDF then [(0x80, 0xBF)]
  else if lead = 0xE0 then [(0xA0, 0xBF), (0x80, 0xBF)]
  else if lead = 0xED then [(0x80, 0x9F), (0x80, 0xBF)]
  else if 0xE1 ≤ lead ∧ lead ≤ 0xEF then [(0x80, 0xBF), (0x80, 0xBF)]
  else if lead = 0xF0 then [(0x90, 0xBF), (0x80, 0xBF), (0x80, 0xBF)]
  else if 0xF1 ≤ lead ∧ lead ≤ 0xF3 then [(0x80, 0xBF), (0x80, 0xBF), (0x80, 0xBF)]
  else if lead = 0xF4 then [(0x80, 0x8F), (0x80, 0xBF), (0x80, 0xBF)]
  else []

/-- How many bytes fall into the ranges one after another. -/
def continued : List (UInt8 × UInt8) → List UInt8 → ℕ
  | (low, high) :: ranges, byte :: bytes =>
      if low ≤ byte ∧ byte ≤ high then continued ranges bytes + 1 else 0
  | _, _ => 0

/-- The code point of a leading byte and its continuation. -/
def codePoint (lead : UInt8) (rest : List UInt8) : ℕ :=
  rest.foldl (fun value byte => value * 64 + byte.toNat % 64)
    (lead.toNat % 2 ^ (if rest = [] then 7 else 6 - rest.length))

/-- Decode, past the bytes that belong to the last character. A character that
breaks off becomes one replacement character. -/
def decodeFrom : ℕ → List UInt8 → List Char
  | _, [] => []
  | skip + 1, _ :: rest => decodeFrom skip rest
  | 0, lead :: rest =>
      let ranges := continuations lead
      let length := continued ranges rest
      let whole := length = ranges.length ∧ (ranges ≠ [] ∨ lead < 0x80)
      (if whole then Char.ofNat (codePoint lead (rest.take length)) else Char.ofNat 0xFFFD) ::
        decodeFrom length rest

/-- `raw.decode("utf-8", "replace")`. -/
def decodeReplace (raw : List UInt8) : String := String.ofList (decodeFrom 0 raw)

/-- `raw.rstrip()`. -/
def rstrip (raw : List UInt8) : List UInt8 :=
  (raw.reverse.dropWhile fun byte => byte ∈ [0x20, 0x9, 0xA, 0xB, 0xC, 0xD]).reverse

/-- Whether `repr` shows a character as it is. Beyond Latin-1 every character counts as
printable. -/
def isPrintable (c : Char) : Bool :=
  (0x20 ≤ c.toNat && c.toNat < 0x7F) || (0xA0 < c.toNat && c.toNat ≠ 0xAD)

/-- One character as `repr` shows it between the quotes. -/
def reprChar (quote c : Char) : List Char :=
  if c = quote ∨ c.toNat = 0x5C then [Char.ofNat 0x5C, c]
  else if c.toNat = 0x9 then [Char.ofNat 0x5C, 't']
  else if c.toNat = 0xA then [Char.ofNat 0x5C, 'n']
  else if c.toNat = 0xD then [Char.ofNat 0x5C, 'r']
  else if isPrintable c then [c]
  else [Char.ofNat 0x5C, 'x', Nat.digitChar (c.toNat / 16), Nat.digitChar (c.toNat % 16)]

/-- `repr(text)`: in single quotes, unless only these occur in the text. -/
def repr (text : String) : String :=
  let quote := Char.ofNat
    (if Char.ofNat 0x27 ∈ text.toList ∧ Char.ofNat 0x22 ∉ text.toList then 0x22 else 0x27)
  String.ofList (quote :: text.toList.flatMap (reprChar quote) ++ [quote])

/-- A field of a dictionary that is missing or empty is falsy. -/
def truthy (text : Option String) : Option String :=
  match text with
  | some text => if text = "" then none else some text
  | none => none

end Python
