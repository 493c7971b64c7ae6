import RecordFilter.Filter.Options
import RecordFilter.Yaml.Node

/-!
# Parser options in YAML

The keys are `culture` and `flags-match`, and in a culture `decimal-separator`, `group-separator` and
`date-formats`. Each of them may be missing; other keys are not looked at.
-/

namespace RecordFilter

/-- Reads a culture. -/
def Culture.ofYaml? (node : Yaml) : Option Culture := do
  let entries ← node.structure? ["decimal-separator", "group-separator", "date-formats"]
  let standard : Culture := {}
  return ⟨← Yaml.memberOr entries "decimal-separator" standard.decimalSeparator Yaml.char?,
    ← Yaml.memberOr entries "group-separator" standard.groupSeparator Yaml.char?,
    ← Yaml.memberOr entries "date-formats" standard.dateFormats fun formats =>
      formats.items?.bind fun items => items.mapM Yaml.text?⟩

/-- Reads parser options. -/
def ParserOptions.ofYaml? (node : Yaml) : Option ParserOptions := do
  let entries ← node.structure? ["culture", "flags-match"]
  return ⟨← Yaml.memberOr entries "culture" {} Culture.ofYaml?,
    ← Yaml.memberOr entries "flags-match" .exact fun name => name.text?.bind FlagsMatch.ofName?⟩

end RecordFilter
