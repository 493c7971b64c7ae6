import RecordFilter.Number.Digits

/-!
# Enumerations

An enumeration gives names to 64-bit integers. A flags enumeration combines members bit by bit, so
that a value may stand for several members or for none.
-/

namespace RecordFilter

/-- An enumeration with its members in ascending order of their values. -/
structure EnumType where
  name : String
  flags : Bool
  members : List (String × Int64)
deriving DecidableEq, Repr

namespace EnumType

/-- The enumeration with these members. Members of one value stay in the given order. -/
def ofMembers (name : String) (flags : Bool) (members : List (String × Int64)) : EnumType :=
  ⟨name, flags, members.mergeSort fun a b => a.2 ≤ b.2⟩

/-- The value of the first member of that name, in any case. -/
def memberValue? (e : EnumType) (name : Text) : Option Int64 :=
  (e.members.find? fun member => Text.eqIgnoreCase member.1.toList name).map Prod.snd

/-- The name of the first member with exactly this value. -/
def memberName? (e : EnumType) (value : Int64) : Option String :=
  (e.members.find? fun member => member.2 == value).map Prod.fst

/-- Whether a character separates members in a list of flags. -/
def isListMark (c : Char) : Bool :=
  c == ',' || c == '|'

/-- Reads a value from a number or a member name, and for flags also from a list of names. -/
def read? (e : EnumType) (t : Text) : Option Int64 :=
  let t := Text.trim t
  match Numeral.int64? t with
  | some value => some value
  | none =>
    if e.flags && t.any isListMark then
      ((Text.splitWhere isListMark t).mapM fun piece => e.memberValue? (Text.trim piece)).map
        fun values => values.foldl (· ||| ·) 0
    else e.memberValue? t

/-- The members whose bits are all set in the value. -/
def covered (e : EnumType) (value : Int64) : List (String × Int64) :=
  e.members.filter fun member => value &&& member.2 == member.2

/-- The text of a value: the member of that value, else the list of the members that make up a flags
value together, else the number. -/
def describe (e : EnumType) (value : Int64) : String :=
  let number := String.ofList (Numeral.ofInt value.toInt)
  match e.memberName? value with
  | some name => name
  | none =>
    let parts := e.covered value
    let names := (parts.filter fun member => member.2 != 0).map Prod.fst
    if e.flags && value != 0 && !names.isEmpty
        && (parts.map Prod.snd).foldl (· ||| ·) 0 == value then
      ", ".intercalate names
    else number

end EnumType
end RecordFilter
