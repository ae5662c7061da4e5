import Mathlib.Data.List.Defs

/-!
# Python values

The values a message body is decoded into, with the truthiness and the string
operations the service applies to them.
-/

namespace EmbeddingService

/-- Code points of a Python string; surrogates are among them. -/
abbrev CodePoint := Fin 0x110000

abbrev PyStr := List CodePoint

theorem charValue_lt (character : Char) : character.toNat < 0x110000 := by
  have valid := character.valid
  rcases valid with low | ⟨_, high⟩
  · exact Nat.lt_of_lt_of_le low (by decide)
  · exact high

/-- The Python string of a literal. -/
def pyStr (literal : String) : PyStr :=
  literal.toList.map
    (fun character => ⟨character.toNat, charValue_lt character⟩)

def PyStr.ofInt (value : Int) : PyStr :=
  pyStr (toString value)

/-- `isspace` of one code point. -/
def isSpace (point : CodePoint) : Bool :=
  (0x09 ≤ point.val && point.val ≤ 0x0D) ||
    (0x1C ≤ point.val && point.val ≤ 0x20) ||
    point.val == 0x85 || point.val == 0xA0 || point.val == 0x1680 ||
    (0x2000 ≤ point.val && point.val ≤ 0x200A) ||
    point.val == 0x2028 || point.val == 0x2029 || point.val == 0x202F ||
    point.val == 0x205F || point.val == 0x3000

/-- `not value.strip()`. -/
def PyStr.isBlank (value : PyStr) : Bool :=
  value.all isSpace

def isSurrogate (point : CodePoint) : Bool :=
  0xD800 ≤ point.val && point.val ≤ 0xDFFF

/-- Whether `value.encode()` works. -/
def PyStr.isUnicode (value : PyStr) : Bool :=
  !value.any isSurrogate

/-- The number of bytes of one code point in UTF-8. -/
def utf8Width (point : CodePoint) : Nat :=
  if point.val < 0x80 then
    1
  else if point.val < 0x800 then
    2
  else if point.val < 0x10000 then
    3
  else
    4

/-- `len(value.encode())`; there is no encoding of a surrogate. -/
def PyStr.utf8Length : PyStr → Option Nat
  | [] => some 0
  | point :: rest =>
      if isSurrogate point then
        none
      else
        (PyStr.utf8Length rest).map (utf8Width point + ·)

/-- `separator.join(parts)`. -/
def PyStr.join (separator : PyStr) : List PyStr → PyStr
  | [] => []
  | [part] => part
  | part :: rest => part ++ separator ++ PyStr.join separator rest

/-- Truth of an optional string: neither `None` nor empty. -/
def truthy : Option PyStr → Bool
  | none => false
  | some value => !value.isEmpty

/-- `first or second` for optional strings. -/
def either (first second : Option PyStr) : Option PyStr :=
  if truthy first then first else second

/-- `value or default` with a string as default. -/
def orDefault (value : Option PyStr) (default : PyStr) : PyStr :=
  match value with
  | none => default
  | some [] => default
  | some (point :: rest) => point :: rest

theorem orDefault_of_ne_nil {value default : PyStr}
    (notEmpty : value ≠ []) : orDefault (some value) default = value := by
  cases value with
  | nil =>
      exact False.elim (notEmpty rfl)
  | cons point rest =>
      rfl

/-- A binary float by its parts. -/
inductive PyFloat where
  | finite (negative : Bool) (significand : Nat) (exponent : Int)
  | infinite (negative : Bool)
  | nan
  deriving DecidableEq, Repr

def PyFloat.zero : PyFloat := .finite false 0 0

/-- What `json.loads` builds. -/
inductive Json where
  | null
  | bool (value : Bool)
  | int (value : Int)
  | float (value : PyFloat)
  | str (value : PyStr)
  | list (values : List Json)
  | dict (entries : List (PyStr × Json))

/-- A `dict` with string keys, as decoded: keys do not repeat. -/
abbrev PyDict := List (PyStr × Json)

/-- `bool(value)`. -/
def Json.truthy : Json → Bool
  | .null => false
  | .bool value => value
  | .int value => value != 0
  | .float (.finite _ significand _) => significand != 0
  | .float _ => true
  | .str value => !value.isEmpty
  | .list values => !values.isEmpty
  | .dict entries => !entries.isEmpty

/-- `entries.get(key)`. -/
def PyDict.get (entries : PyDict) (key : PyStr) : Option Json :=
  (entries.find? (fun entry => entry.1 == key)).map Prod.snd

/-- `entries[key] = value`: a present key keeps its place. -/
def PyDict.set (entries : PyDict) (key : PyStr) (value : Json) : PyDict :=
  if entries.any (fun entry => entry.1 == key) then
    entries.map
      (fun entry => if entry.1 == key then (key, value) else entry)
  else
    entries ++ [(key, value)]

/-- Truth of what `entries.get(key)` returns. -/
def PyDict.getTruthy (entries : PyDict) (key : PyStr) : Bool :=
  match entries.get key with
  | none => false
  | some value => value.truthy

end EmbeddingService
