import RecordFilter.Text.Basic
import RecordFilter.Text.CaseTable

/-!
# Lower and upper case

Whole texts in lower or upper case. Some letters become several characters, and a capital sigma
becomes a final small sigma at the end of a word.
-/

namespace RecordFilter
namespace Text

/-- The character with its simple mapping applied. -/
def mapCase (table : List CaseTable.Run) (c : Char) : Char :=
  match table.findSome? fun run => run.map? c.toNat with
  | some n => Char.ofNat n
  | none => c

/-- The lower case of a character by itself. -/
def lowerChar (c : Char) : Text :=
  if c.toNat < 128 then [c.toLower]
  else if c.toNat = 0x130 then ['i', Char.ofNat 0x307]
  else [mapCase CaseTable.toLower c]

/-- The upper case of a character. -/
def upperChar (c : Char) : Text :=
  if c.toNat < 128 then [c.toUpper]
  else match CaseTable.toUpperMany.lookup c.toNat with
    | some codes => codes.map Char.ofNat
    | none => [mapCase CaseTable.toUpper c]

/-- Whether the first character that is not skipped is a letter with a case. -/
def meetsCased (t : Text) : Bool :=
  match t.dropWhile fun c => CaseTable.inRanges CaseTable.caseIgnorable c.toNat with
  | [] => false
  | c :: _ => CaseTable.inRanges CaseTable.cased c.toNat

/-- The lower case of the text that follows `before`, which is given backwards. -/
def lowerAfter (before : Text) : Text → Text
  | [] => []
  | c :: t =>
    let small :=
      if c = 'Σ' then (if meetsCased before && !meetsCased t then ['ς'] else ['σ'])
      else lowerChar c
    small ++ lowerAfter (c :: before) t

/-- The text in lower case. -/
def lower (t : Text) : Text :=
  lowerAfter [] t

/-- The text in upper case. -/
def upper (t : Text) : Text :=
  t.flatMap upperChar

end Text
end RecordFilter
