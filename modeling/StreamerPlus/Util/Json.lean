import Mathlib

/-!
# JSON values

`Json::Value` of the JsonCpp library, as its strict reader builds it, and the helpers of
`util/json/json_helpers.h` and `util/enum_name_table.h`. Integers and doubles are not told apart:
a number is the rational that it stands for, and `isInt()` asks only whether it is an integer in
range. The keys of an object are distinct, as the reader rejects duplicates.

JsonCpp is built without exceptions: where it would throw, the program aborts. The helpers here are
called on values whose kind was checked before and do not abort; the places that do not check are
modelled where they are.
-/

namespace StreamerPlus

/-- `Json::Value`. -/
inductive Json
  | null
  | bool (b : Bool)
  | number (x : ℚ)
  | string (s : String)
  | array (items : List Json)
  | object (fields : List (String × Json))

namespace Json

@[simp] def isNull : Json → Bool
  | null => true
  | _ => false

@[simp] def isObject : Json → Bool
  | object _ => true
  | _ => false

/-- `operator[](key)` of an object; what it does not have is null. -/
def field (value : Json) (key : String) : Json :=
  match value with
  | object fields => (fields.lookup key).getD null
  | _ => null

/-- `isInt()` and `asInt()`. -/
def asInt? : Json → Option ℤ
  | number x => if x.den = 1 ∧ -2 ^ 31 ≤ x.num ∧ x.num < 2 ^ 31 then some x.num else none
  | _ => none

/-- `TryParseBool`. -/
def tryParseBool : Json → Option Bool
  | bool b => some b
  | _ => none

/-- `TryParseInt`, which rejects negative values. -/
def tryParseInt (value : Json) : Option ℤ := value.asInt?.filter (0 ≤ ·)

/-- `TryParseUint`. -/
def tryParseUint : Json → Option UInt32
  | number x =>
    if x.den = 1 ∧ 0 ≤ x.num ∧ x.num < 2 ^ 32 then some (UInt32.ofNat x.num.toNat) else none
  | _ => none

/-- `TryParseString`. -/
def tryParseString : Json → Option String
  | string s => some s
  | _ => none

/-- `TryParseArray`, which rejects the empty array. -/
def tryParseArray {α : Type} (parser : Json → Option α) : Json → Option (List α)
  | array [] => none
  | array items => items.mapM parser
  | _ => none

/-- `TryParseStringArray`. -/
def tryParseStringArray : Json → Option (List String) := tryParseArray tryParseString

/-- An integer as a value. -/
def int (n : ℤ) : Json := number n

theorem tryParseInt_nonneg {value : Json} {n : ℤ} (h : value.tryParseInt = some n) : 0 ≤ n := by
  simpa using (Option.filter_eq_some_iff.mp h).2

end Json

/-! ### Names of enumeration values -/

/-- `string_util::EqualsIgnoreCase(a, b)`. -/
def equalsIgnoreCase (a b : String) : Bool :=
  a.toList.map Char.toLower = b.toList.map Char.toLower

/-- `GetEnum(map, name)`. -/
def getEnum {α : Type} (table : List (String × α)) (name : String) : Option α :=
  (table.find? fun entry => equalsIgnoreCase entry.1 name).map Prod.snd

/-- `GetEnumName(map, value)` for a value that the table names. -/
def getEnumName {α : Type} [DecidableEq α] (table : List (String × α)) (value : α) : String :=
  ((table.find? fun entry => entry.2 = value).map Prod.fst).getD ""

end StreamerPlus
