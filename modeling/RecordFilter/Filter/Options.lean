import RecordFilter.Number.Digits
import RecordFilter.Time.Reading

/-!
# Options of the parser

The culture says how numbers and dates are written in literals. The flags match says whether an
equation with a flags enumeration asks for the same value or for all of its bits.
-/

namespace RecordFilter

/-- How numbers and dates are written. -/
structure Culture where
  decimalSeparator : Char := '.'
  groupSeparator : Char := ','
  /-- Patterns that dates are read along, the first one that fits. -/
  dateFormats : List String := Timestamp.defaultPatterns
deriving DecidableEq, Repr

namespace Culture

/-- Whether a character can stand in a number with a decimal point. -/
def isNumberChar (c : Char) : Bool :=
  Numeral.isDigit c || c == '.' || c == '-' || c == '+' || c == 'e' || c == 'E'

/-- The text of a number with a decimal point and without group separators, if nothing else is in
it. -/
def normalizeNumber? (culture : Culture) (t : Text) : Option Text :=
  let number := ((Text.trim t).filter fun c => c != culture.groupSeparator).map fun c =>
    if c = culture.decimalSeparator then '.' else c
  if !number.isEmpty && number.all isNumberChar then some number else none

end Culture

/-- What it means for a flags value to equal another one. -/
inductive FlagsMatch where
  /-- The values are the same. -/
  | exact
  /-- The value on the left has all bits of the one on the right. -/
  | contains
deriving DecidableEq, Repr

namespace FlagsMatch

/-- The word for the match. -/
def name : FlagsMatch → String
  | exact => "exact"
  | contains => "contains"

/-- The match of a word. -/
def ofName? (name : String) : Option FlagsMatch :=
  if name = "exact" then some .exact
  else if name = "contains" then some .contains
  else none

end FlagsMatch

/-- How filter text is read. -/
structure ParserOptions where
  culture : Culture := {}
  flagsMatch : FlagsMatch := .exact
deriving DecidableEq, Repr

end RecordFilter
