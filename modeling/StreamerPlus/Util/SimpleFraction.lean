import StreamerPlus.Util.Json

/-!
# Numbers in texts, and simple fractions

`string_parse::ParseAsciiNumber` for an `int`, which reads a prefix of the text and ignores what
follows, `string_util::Split`, and `SimpleFraction` (`util/simple_fraction.cc`), which is not
reduced.
-/

namespace StreamerPlus

/-- `std::from_chars` for an `int`: an optional minus and as many digits as there are. -/
def parseAsciiNumber (text : List Char) : Option ℤ :=
  let isNegative := text.head? = some '-'
  let digits := (if isNegative then text.tail else text).takeWhile Char.isDigit
  let magnitude : ℤ := digits.foldl (fun n d => 10 * n + (d.toNat - '0'.toNat : ℕ)) 0
  let value := if isNegative then -magnitude else magnitude
  if digits ≠ [] ∧ -2 ^ 31 ≤ value ∧ value < 2 ^ 31 then some value else none

/-- `string_util::Split(value, delim)`, which drops empty tokens. -/
def splitText (value : String) (delim : Char) : List (List Char) :=
  (value.toList.splitOn delim).filter (· ≠ [])

/-- `SimpleFraction`. -/
structure SimpleFraction where
  numerator : ℤ := 0
  denominator : ℤ := 1
  deriving DecidableEq, Repr

namespace SimpleFraction

/-- `is_positive()`, which zero is too. -/
def isPositive (f : SimpleFraction) : Bool := 0 ≤ f.numerator && 0 < f.denominator

/-- `FromString(value)`. -/
def fromString (value : String) : Option SimpleFraction :=
  if value.toList.head? = some '/' then none
  else
    match splitText value '/' with
    | [numerator] => (parseAsciiNumber numerator).map fun n => ⟨n, 1⟩
    | [numerator, denominator] => do
      let numerator ← parseAsciiNumber numerator
      let denominator ← parseAsciiNumber denominator
      return ⟨numerator, denominator⟩
    | _ => none

/-- `ToString()`. -/
def toText (f : SimpleFraction) : String :=
  if f.denominator = 1 then toString f.numerator
  else toString f.numerator ++ "/" ++ toString f.denominator

end SimpleFraction

end StreamerPlus
