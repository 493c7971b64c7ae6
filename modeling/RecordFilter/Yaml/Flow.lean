import RecordFilter.Yaml.Node

/-!
# Scalars and flow collections

The parts of a YAML document that do not depend on lines: scalars with and without quotes, and
collections in brackets.
-/

namespace RecordFilter
namespace Yaml

/-- The text after leading spaces and tabs. -/
def skipBlank (t : Text) : Text :=
  t.dropWhile fun c => c == ' ' || c == '\t'

/-- The characters that structure flow collections. -/
def isFlowMark (c : Char) : Bool :=
  c == ',' || c == '[' || c == ']' || c == '\x7b' || c == '\x7d'

/-- The characters that no scalar without quotes begins with. -/
def isReserved (c : Char) : Bool :=
  isFlowMark c || "&*!|>%@`\"'#".toList.contains c

/-! ## Quoted scalars -/

/-- The content up to a closing single quote; a quote inside is written twice. -/
def singleQuoted? : Text → Option (Text × Text)
  | [] => none
  | '\'' :: '\'' :: t => (singleQuoted? t).map fun (content, t) => ('\'' :: content, t)
  | '\'' :: t => some ([], t)
  | c :: t => (singleQuoted? t).map fun (content, t) => (c :: content, t)

/-- The characters for a letter after a backslash. -/
def simpleEscapes : List (Char × Nat) :=
  [('0', 0), ('a', 7), ('b', 8), ('t', 9), ('\t', 9), ('n', 10), ('v', 11), ('f', 12), ('r', 13),
    ('e', 27), (' ', 32), ('"', 34), ('/', 47), ('\\', 92), ('N', 0x85), ('_', 0xA0),
    ('L', 0x2028), ('P', 0x2029)]

/-- The number of hexadecimal digits after an escape letter. -/
def escapeWidth? : Char → Option Nat
  | 'x' => some 2
  | 'u' => some 4
  | 'U' => some 8
  | _ => none

/-- A character from its code. -/
def charOfCode? (n : Nat) : Option Char :=
  if n.isValidChar then some (Char.ofNat n) else none

/-- The content up to a closing double quote. -/
def doubleQuoted? (fuel : Nat) (t : Text) : Option (Text × Text) :=
  match fuel, t with
  | 0, _ | _, [] => none
  | _, '"' :: t => some ([], t)
  | fuel + 1, '\\' :: letter :: t =>
    let character? : Option (Char × Text) :=
      match simpleEscapes.lookup letter, escapeWidth? letter with
      | some code, _ => (charOfCode? code).map (·, t)
      | none, some width =>
        (natIn? 16 (t.take width)).bind fun code =>
          if t.length < width then none else (charOfCode? code).map (·, t.drop width)
      | none, none => none
    character?.bind fun (c, t) =>
      (doubleQuoted? fuel t).map fun (content, t) => (c :: content, t)
  | fuel + 1, c :: t => (doubleQuoted? fuel t).map fun (content, t) => (c :: content, t)

/-- A quoted scalar and what follows it. -/
def quoted? : Text → Option (String × Text)
  | '\'' :: t => (singleQuoted? t).map fun (content, t) => (String.ofList content, t)
  | '"' :: t => (doubleQuoted? (t.length + 1) t).map fun (content, t) => (String.ofList content, t)
  | _ => none

/-! ## Plain scalars -/

/-- Whether a colon before this text ends a key. -/
def endsKey (inFlow : Bool) : Text → Bool
  | [] => true
  | c :: _ => c == ' ' || c == '\t' || (inFlow && isFlowMark c)

/-- The characters of a plain scalar and what follows it. It ends at a colon that ends a key, and in
a flow collection at the marks of those. -/
def spanPlain (inFlow : Bool) : Text → Text × Text
  | [] => ([], [])
  | c :: t =>
    if (inFlow && isFlowMark c) || (c == ':' && endsKey inFlow t) then ([], c :: t)
    else
      let (content, rest) := spanPlain inFlow t
      (c :: content, rest)

/-- A plain scalar and what follows it. -/
def plainScalar? (inFlow : Bool) (t : Text) : Option (String × Text) :=
  let (content, rest) := spanPlain inFlow t
  match t with
  | [] => none
  | c :: next =>
    if isReserved c || ((c == '-' || c == '?') && endsKey inFlow next) then none
    else some (String.ofList (Text.trim content), rest)

/-! ## Flow collections -/

mutual

/-- A scalar or a collection inside of a flow collection. -/
def flowNode? (fuel : Nat) (t : Text) : Option (Yaml × Text) :=
  match fuel with
  | 0 => none
  | fuel + 1 =>
    match skipBlank t with
    | '[' :: t => (flowItems? fuel t).map fun (items, t) => (.sequence items, t)
    | '\x7b' :: t => (flowEntries? fuel t).map fun (entries, t) => (.mapping entries, t)
    | t =>
      match quoted? t with
      | some (text, t) => some (.scalar false text, t)
      | none => (plainScalar? true t).map fun (text, t) => (.scalar true text, t)

/-- The items up to a closing bracket. -/
def flowItems? (fuel : Nat) (t : Text) : Option (List Yaml × Text) :=
  match fuel with
  | 0 => none
  | fuel + 1 =>
    match skipBlank t with
    | ']' :: t => some ([], t)
    | t =>
      (flowNode? fuel t).bind fun (item, t) =>
        match skipBlank t with
        | ',' :: t => (flowItems? fuel t).map fun (items, t) => (item :: items, t)
        | ']' :: t => some ([item], t)
        | _ => none

/-- The entries up to a closing brace. -/
def flowEntries? (fuel : Nat) (t : Text) : Option (List (String × Yaml) × Text) :=
  match fuel with
  | 0 => none
  | fuel + 1 =>
    match skipBlank t with
    | '\x7d' :: t => some ([], t)
    | t =>
      ((quoted? t).or (plainScalar? true t)).bind fun (key, t) =>
        let value? : Option (Yaml × Text) :=
          match skipBlank t with
          | ':' :: t =>
            match skipBlank t with
            | ',' :: _ | '\x7d' :: _ => some (absent, t)
            | t => flowNode? fuel t
          | t => some (absent, t)
        value?.bind fun (value, t) =>
          match skipBlank t with
          | ',' :: t => (flowEntries? fuel t).map fun (entries, t) => ((key, value) :: entries, t)
          | '\x7d' :: t => some ([(key, value)], t)
          | _ => none

end

/-- The node that a whole text stands for. -/
def inline? (t : Text) : Option Yaml :=
  let whole (result : Option (Yaml × Text)) : Option Yaml :=
    result.bind fun (node, rest) => if (skipBlank rest).isEmpty then some node else none
  match t with
  | '[' :: _ | '\x7b' :: _ => whole (flowNode? (2 * t.length + 2) t)
  | '"' :: _ | '\'' :: _ => whole ((quoted? t).map fun (text, t) => (.scalar false text, t))
  | t => whole ((plainScalar? false t).map fun (text, t) => (.scalar true text, t))

end Yaml
end RecordFilter
