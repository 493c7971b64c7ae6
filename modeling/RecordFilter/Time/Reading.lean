import RecordFilter.Time.Pattern

/-!
# Reading timestamps

A timestamp is read in the Internet format (`2012-01-02T03:04:05Z`, with an offset that moves it to
universal time) or else along the first pattern that fits, as a timestamp or as a date at midnight.
-/

namespace RecordFilter
namespace Timestamp

/-- Skips one character. -/
def skip? (c : Char) (t : Text) : Option Text :=
  Text.dropStart? [c] t

/-- The longest offset in minutes. -/
def maxOffset : Int := 23 * 60 + 59

/-- Reads a fraction of a second in nanoseconds, which may be missing. -/
def fraction? : Text → Option (Int × Text)
  | '.' :: t => DateFields.fractionDigits? t
  | t => some (0, t)

/-- Reads a timestamp with an offset in the Internet format. -/
def readInternet? (t : Text) : Option Timestamp := do
  let (year, t) ← DateFields.digits? 4 4 t
  let t ← skip? '-' t
  let (month, t) ← DateFields.digits? 2 2 t
  let t ← skip? '-' t
  let (day, t) ← DateFields.digits? 2 2 t
  let (_, t) ← DateFields.readItem? [] .dateTimeMark t
  let (hour, t) ← DateFields.digits? 2 2 t
  let t ← skip? ':' t
  let (minute, t) ← DateFields.digits? 2 2 t
  let t ← skip? ':' t
  let (second, t) ← DateFields.digits? 2 2 t
  let (nanosecond, t) ← fraction? t
  let (offset, t) ← DateFields.offset? (skip? ':') true false t
  let date ← Date.ofCivil? year month.toNat day.toNat
  let moment ← ofParts? date hour.toNat minute.toNat second.toNat nanosecond.toNat
  if t.isEmpty ∧ -maxOffset ≤ offset ∧ offset ≤ maxOffset then moment.addMinutes? (-offset)
  else none

/-- Reads a timestamp along a pattern, or a date, which stands for its beginning. -/
def readPattern? (pattern t : Text) : Option Timestamp :=
  (DateFields.read? pattern t).bind fun fields => fields.timestamp?.or fields.midnight?

/-- Reads a timestamp in the Internet format, or along the first pattern that fits. -/
def read? (patterns : List String) (t : Text) : Option Timestamp :=
  let t := Text.trim t
  (readInternet? t).or (patterns.findSome? fun pattern => readPattern? pattern.toList t)

/-- The patterns that are tried when no others are given. -/
def defaultPatterns : List String :=
  ["%Y-%m-%dT%H:%M:%S", "%Y-%m-%dT%H:%M:%S%.f", "%Y-%m-%d %H:%M:%S", "%Y-%m-%d %H:%M:%S%.f",
    "%Y-%m-%dT%H:%M", "%Y-%m-%d %H:%M", "%m/%d/%Y %H:%M:%S", "%m/%d/%Y %I:%M:%S %p", "%Y-%m-%d",
    "%m/%d/%Y"]

end Timestamp
end RecordFilter
