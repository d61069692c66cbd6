import FlipperMcp.Python.Text

/-! # The values of a JSON document

What `json.loads` returns, with the operations that a walk through it uses. Each is total
here: it is `none` where Python raises.
-/

namespace Python

/-- A value of a JSON document. A float is known by its `repr` and by whether it is zero;
the entries of a dictionary are in its order, no key twice. -/
inductive Value
  | none
  | bool (value : Bool)
  | int (value : ℤ)
  | float (repr : String) (isZero : Bool)
  | str (text : String)
  | list (items : List Value)
  | dict (entries : List (String × Value))

namespace Value

/-- `type(value).__name__`. -/
def typeName : Value → String
  | none => "NoneType"
  | bool _ => "bool"
  | int _ => "int"
  | float _ _ => "float"
  | str _ => "str"
  | list _ => "list"
  | dict _ => "dict"

mutual

/-- `repr(value)`. -/
def repr : Value → String
  | none => "None"
  | bool value => if value then "True" else "False"
  | int value => toString value
  | float repr _ => repr
  | str text => Python.repr text
  | list items => "[" ++ String.intercalate ", " (reprItems items) ++ "]"
  | dict entries => "\x7b" ++ String.intercalate ", " (reprEntries entries) ++ "\x7d"

def reprItems : List Value → List String
  | [] => []
  | item :: items => item.repr :: reprItems items

def reprEntries : List (String × Value) → List String
  | [] => []
  | entry :: entries => reprEntry entry :: reprEntries entries

def reprEntry : String × Value → String
  | (key, value) => Python.repr key ++ ": " ++ value.repr

end

/-- `str(value)`. -/
def toStr : Value → String
  | str text => text
  | value => value.repr

/-- `bool(value)`. -/
def truthy : Value → Bool
  | none => false
  | bool value => value
  | int value => value ≠ 0
  | float _ isZero => !isZero
  | str text => text ≠ ""
  | list items => !items.isEmpty
  | dict entries => !entries.isEmpty

/-- `value == text`. -/
def isText (text : String) : Value → Bool
  | str other => other = text
  | _ => false

/-- The value is a dictionary. -/
def IsDict : Value → Prop
  | dict _ => True
  | _ => False

instance : DecidablePred IsDict
  | dict _ => .isTrue trivial
  | none | bool _ | int _ | float _ _ | str _ | list _ => .isFalse id

/-- `value[key]`, of a dictionary that has the key. -/
def lookup (key : String) : Value → Option Value
  | dict entries => entries.lookup key
  | _ => .none

/-- `value.get(key, default)`, of a dictionary. -/
def lookupD (value : Value) (key : String) (default : Value) : Value :=
  (value.lookup key).getD default

/-- The value, unless it is `None`. -/
def present : Value → Option Value
  | none => .none
  | value => some value

/-- `value[0]`, of a list or a text. -/
def first? : Value → Option Value
  | list items => items.head?
  | str text => text.toList.head?.map fun c => str (String.ofList [c])
  | _ => .none

/-- What `iter(value)` yields: of a dictionary its keys, of a text its characters. -/
def elements? : Value → Option (List Value)
  | list items => some items
  | str text => some (text.toList.map fun c => str (String.ofList [c]))
  | dict entries => some (entries.map fun entry => str entry.1)
  | _ => .none

/-- It can be the key of a dictionary. -/
def hashable : Value → Bool
  | list _ | dict _ => false
  | _ => true

/-- `value.get(key) == text`, of a dictionary. -/
def hasText (key text : String) (value : Value) : Bool := (value.lookup key).any (isText text)

/-- What has a key is a dictionary. -/
theorem isDict_of_lookup {key : String} {value found : Value}
    (has : value.lookup key = some found) : value.IsDict := by
  cases value with
  | dict entries => trivial
  | _ => exact nomatch has

theorem isDict_of_hasText {key text : String} {value : Value}
    (has : value.hasText key text = true) : value.IsDict := by
  cases value with
  | dict entries => trivial
  | _ => exact nomatch has

/-- Every value in front of the first match is a dictionary. -/
def DictsUntil (found : Value → Bool) (values : List Value) : Prop :=
  ∀ value ∈ values.takeWhile (fun value => !found value), value.IsDict

theorem dictsUntil_nil (found : Value → Bool) : DictsUntil found [] := nofun

/-- Where only dictionaries match, so is the first value one. -/
theorem dictsUntil_cons {found : Value → Bool} (dicts : ∀ value, found value = true → value.IsDict)
    (value : Value) (values : List Value) :
    DictsUntil found (value :: values) ↔
      value.IsDict ∧ (found value = false → DictsUntil found values) := by
  unfold DictsUntil
  cases matches_ : found value with
  | true =>
      rw [List.takeWhile_cons_of_neg (by rw [matches_]; exact nofun)]
      exact ⟨fun _ => ⟨dicts value matches_, nofun⟩, fun _ => nofun⟩
  | false =>
      rw [List.takeWhile_cons_of_pos (by rw [matches_]; rfl), List.forall_mem_cons]
      exact and_congr_right fun _ => ⟨fun rest _ => rest, fun rest => rest rfl⟩

end Value

end Python
