import RecordFilter.Value.Basic

/-!
# Comparison and arithmetic

Numbers of different kinds are brought to one kind first: two integers stay integers, an integer
and a decimal become decimals, and anything with a double becomes doubles. Integer results wrap
around, in 32 bits when both operands have 32 bits. Null as an operand gives null.
-/

namespace RecordFilter

/-- An arithmetic operation. -/
inductive Arithmetic where
  | add
  | sub
  | mul
  | div
  | mod
deriving DecidableEq, Repr

namespace Arithmetic

/-- The word for the operation. -/
def keyword : Arithmetic → String
  | .add => "add"
  | .sub => "sub"
  | .mul => "mul"
  | .div => "div"
  | .mod => "mod"

/-- The operation on 64-bit integers, which wraps around. -/
def onInt64 : Arithmetic → Int64 → Int64 → Int64
  | .add => (· + ·)
  | .sub => (· - ·)
  | .mul => (· * ·)
  | .div => (· / ·)
  | .mod => (· % ·)

/-- The operation on decimals, unless it overflows. -/
def onDecimal? : Arithmetic → Decimal → Decimal → Option Decimal
  | .add => Decimal.add?
  | .sub => Decimal.sub?
  | .mul => Decimal.mul?
  | .div => Decimal.div?
  | .mod => Decimal.rem?

/-- The operation on doubles. -/
def onDouble : Arithmetic → Float → Float → Float
  | .add => (· + ·)
  | .sub => (· - ·)
  | .mul => (· * ·)
  | .div => (· / ·)
  | .mod => Double.rem

/-- Whether the operation divides. -/
def divides : Arithmetic → Bool
  | .div | .mod => true
  | _ => false

end Arithmetic

namespace Value

/-- Two numbers of one kind. -/
inductive NumericPair where
  | integral (left right : Int64)
  | decimal (left right : Decimal)
  | double (left right : Float)

/-- Brings two numbers to one kind. -/
def numericPair? (a b : Value) : Option NumericPair :=
  match a, b with
  | .int32 x, .int32 y => some (.integral x.toInt64 y.toInt64)
  | .int32 x, .int64 y => some (.integral x.toInt64 y)
  | .int64 x, .int32 y => some (.integral x y.toInt64)
  | .int64 x, .int64 y => some (.integral x y)
  | a, b =>
    match a.decimal?, b.decimal? with
    | some x, some y => some (.decimal x y)
    | _, _ =>
      match a.double?, b.double? with
      | some x, some y => some (.double x y)
      | _, _ => none

/-- Whether the right one is an exact zero. -/
def NumericPair.dividesByZero : NumericPair → Bool
  | .integral _ y => y == 0
  | .decimal _ y => y.isZero
  | .double .. => false

/-- Whether both values have 32 bits. -/
def bothInt32 : Value → Value → Bool
  | .int32 _, .int32 _ => true
  | _, _ => false

/-- The result of an arithmetic operation. -/
def arithmetic (operation : Arithmetic) (a b : Value) : Except ValueError Value :=
  if a.isNull || b.isNull then .ok .null
  else
    match numericPair? a b with
    | none => .error (.type (.invalidOperation operation.keyword a.kindName b.kindName))
    | some pair =>
      if operation.divides && pair.dividesByZero then .error .divideByZero
      else
        match pair with
        | .integral x y =>
          let result := operation.onInt64 x y
          .ok (if bothInt32 a b then .int32 result.toInt32 else .int64 result)
        | .decimal x y =>
          match operation.onDecimal? x y with
          | some result => .ok (.decimal result)
          | none => .error (.decimalOverflow operation.keyword)
        | .double x y => .ok (.double (operation.onDouble x y))

/-- The order of two values of compatible kinds. Null has no order. -/
def compare (a b : Value) : Except ValueError Ordering :=
  match a, b with
  | .string x, .string y => .ok (Ord.compare x y)
  | .boolean x, .boolean y => .ok (Ord.compare x y)
  | .dateTime x, .dateTime y => .ok (x.compare y)
  | .guid x, .guid y => .ok (Ord.compare x.value y.value)
  | .enumeration _ x, .enumeration _ y => .ok (Ord.compare x y)
  | a, b =>
    match numericPair? a b with
    | some (.integral x y) => .ok (Ord.compare x y)
    | some (.decimal x y) => .ok (x.compare y)
    | some (.double x y) =>
      match Double.compare? x y with
      | some order => .ok order
      | none => .error (.invalidComparison a.kindName b.kindName)
    | none => .error (.type (.invalidOperation "compare" a.kindName b.kindName))

/-- Equality of two values that are not both objects. An enumeration value equals an integer or
another enumeration value of the same number. -/
def equalsFlat (a b : Value) : Bool :=
  match a, b with
  | .enumeration _ x, other => other.int64? == some x
  | other, .enumeration _ x => other.int64? == some x
  | .null, .null => true
  | .boolean x, .boolean y => x == y
  | .string x, .string y => x == y
  | .dateTime x, .dateTime y => x == y
  | .guid x, .guid y => x == y
  | a, b =>
    match numericPair? a b with
    | some (.integral x y) => x == y
    | some (.decimal x y) => x.compare y == .eq
    | some (.double x y) => Double.compare? x y == some .eq
    | none => false

mutual

/-- Equality of two values, where numbers of different kinds may be equal. Objects are equal when they
have the same fields with equal values. -/
def equals : Value → Value → Bool
  | .object fields, .object others =>
    fields.length == others.length && equalsFields fields others
  | a, b => equalsFlat a b

/-- Whether each of the fields equals the field of that name among the others. -/
def equalsFields : List (String × Value) → FieldMap Value → Bool
  | [], _ => true
  | (name, value) :: rest, others =>
    (match FieldMap.get? others name with
      | some other => equals value other
      | none => false)
      && equalsFields rest others

end

/-- Whether the value has all bits of `flag`. -/
def hasFlags (value flag : Value) : Except ValueError Bool :=
  match value.int64?, flag.int64? with
  | some bits, some wanted => .ok (bits &&& wanted == wanted)
  | _, _ => .error (.type (.invalidOperation "has flags" value.kindName flag.kindName))

end Value
end RecordFilter
