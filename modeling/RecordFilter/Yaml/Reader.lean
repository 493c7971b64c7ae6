import RecordFilter.Yaml.Flow

/-!
# Reading YAML

The reader takes one document of block mappings and sequences, flow collections and scalars, with
comments. Anchors, tags, block scalars and several documents are not read.
-/

namespace RecordFilter
namespace Yaml

/-! ## Lines -/

/-- A line with its indentation. -/
structure Line where
  indent : Nat
  text : Text

/-- Whether a quote after this character begins a quoted scalar. -/
def opensAfter : Option Char → Bool
  | none => true
  | some c => c == ' ' || c == ':' || isFlowMark c

/-- The text without a comment at its end. `before` is the character before the text, and `quote` the
quote that is open there. -/
def withoutComment (before : Option Char) (quote : Option Char) : Text → Text
  | [] => []
  | '\\' :: c :: t =>
    if quote = some '"' then '\\' :: c :: withoutComment (some c) quote t
    else '\\' :: withoutComment (some '\\') quote (c :: t)
  | c :: t =>
    match quote with
    | some opened => c :: withoutComment (some c) (if c = opened then none else quote) t
    | none =>
      if c = '#' && (before.isNone || before = some ' ') then []
      else if (c = '"' || c = '\'') && opensAfter before then
        c :: withoutComment (some c) (some c) t
      else c :: withoutComment (some c) none t

/-- A line of text, or nothing if it is blank; a line must not be indented by tabs. -/
def line? (t : Text) : Option (Option Line) :=
  let content := t.dropWhile (· == ' ')
  let text := Text.trimEnd (withoutComment none none content)
  if text.isEmpty then some none
  else if text.head? = some '\t' then none
  else some (some ⟨t.length - content.length, text⟩)

/-- The lines of a document that are not blank. The mark at its beginning is dropped. -/
def lines? (t : Text) : Option (List Line) :=
  ((Text.split '\n' t).mapM line?).map fun lines =>
    match lines.filterMap id with
    | ⟨0, ['-', '-', '-']⟩ :: rest => rest
    | rest => rest

/-! ## Blocks -/

/-- The text after the dash of an item, with the number of characters before it. -/
def item? : Text → Option (Nat × Text)
  | ['-'] => some (1, [])
  | '-' :: ' ' :: t =>
    let content := skipBlank t
    some (2 + (t.length - content.length), content)
  | _ => none

/-- The key at the beginning of a line and the text after its colon. -/
def keyed? (t : Text) : Option (String × Text) :=
  ((quoted? t).or (plainScalar? false t)).bind fun (key, rest) =>
    match skipBlank rest with
    | ':' :: rest => if endsKey false rest then some (key, skipBlank rest) else none
    | _ => none

/-- The lines that are indented more than the given column, and the others after them. -/
def nested (indent : Nat) (lines : List Line) : List Line × List Line :=
  lines.span fun line => indent < line.indent

/-- The node of a text that goes on over several lines. -/
def joined? (t : Text) (more : List Line) : Option Yaml :=
  inline? (Text.unwords (t :: more.map Line.text))

mutual

/-- The node that all of the lines stand for. -/
def block? (fuel : Nat) (lines : List Line) : Option Yaml :=
  match fuel, lines with
  | 0, _ | _, [] => none
  | fuel + 1, first :: rest =>
    if (item? first.text).isSome then
      (blockItems? fuel first.indent (first :: rest)).map .sequence
    else if (keyed? first.text).isSome then
      (blockEntries? fuel first.indent (first :: rest)).map .mapping
    else joined? first.text rest

/-- The items of a sequence at a column. -/
def blockItems? (fuel indent : Nat) (lines : List Line) : Option (List Yaml) :=
  match fuel, lines with
  | _, [] => some []
  | 0, _ => none
  | fuel + 1, first :: rest =>
    if first.indent ≠ indent then none
    else
      (item? first.text).bind fun (offset, text) =>
        let (inner, others) := nested indent rest
        let node? :=
          if text.isEmpty then (if inner.isEmpty then some absent else block? fuel inner)
          else block? fuel (⟨indent + offset, text⟩ :: inner)
        node?.bind fun node => (blockItems? fuel indent others).map (node :: ·)

/-- The entries of a mapping at a column. A sequence under a key may stand at the same column. -/
def blockEntries? (fuel indent : Nat) (lines : List Line) : Option (List (String × Yaml)) :=
  match fuel, lines with
  | _, [] => some []
  | 0, _ => none
  | fuel + 1, first :: rest =>
    if first.indent ≠ indent then none
    else
      (keyed? first.text).bind fun (key, text) =>
        let (inner, others) :=
          if text.isEmpty then
            rest.span fun line =>
              indent < line.indent || (line.indent == indent && (item? line.text).isSome)
          else nested indent rest
        let node? :=
          if !text.isEmpty then joined? text inner
          else if inner.isEmpty then some absent
          else block? fuel inner
        node?.bind fun node => (blockEntries? fuel indent others).map ((key, node) :: ·)

end

/-- Reads a document. Text without content is a value that is left out. -/
def read? (t : Text) : Option Yaml :=
  (lines? t).bind fun lines =>
    if lines.isEmpty then some absent else block? (2 * t.length + 2) lines

end Yaml
end RecordFilter
