import RecordFilter.Text.CaseTable
import RecordFilter.Text.Basic
import RecordFilter.Text.WidthTable

/-!
# Columns of text

How many columns text takes where every column is as wide as a Latin letter.
-/

namespace RecordFilter
namespace Text

/-- The columns of a character: none for combining marks, two for wide characters, three for the one
Khmer sign of that width, else one, also for control characters. -/
def charWidth (c : Char) : Nat :=
  let n := c.toNat
  if n < 0xA0 then 1
  else if n = 0x17D8 then 3
  else if CaseTable.inRanges WidthTable.zero n then 0
  else if CaseTable.inRanges WidthTable.wide n then 2
  else 1

/-- The columns of a line. -/
def width (t : Text) : Nat :=
  (t.map charWidth).sum

/-- The line filled up with spaces to the given number of columns. -/
def padEnd (columns : Nat) (t : Text) : Text :=
  t ++ List.replicate (columns - width t) ' '

end Text
end RecordFilter
