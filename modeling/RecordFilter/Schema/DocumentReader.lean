import RecordFilter.Schema.Document
import RecordFilter.Yaml.Node

/-!
# Schema documents in YAML

The keys of a schema document are `name`, `fields`, `enums` and `records`. Only the name is required;
an enumeration must have `members` and may have `flags`. Other keys are not looked at.
-/

namespace RecordFilter

/-- Reads the declaration of an enumeration. -/
def EnumDeclaration.ofYaml? (node : Yaml) : Option EnumDeclaration := do
  let entries ← node.structure? ["flags", "members"]
  let members ← entries.lookup "members"
  return ⟨← Yaml.memberOr entries "flags" false Yaml.bool?, ← members.mapOf? Yaml.int64?⟩

namespace SchemaDocument

/-- Reads the fields of a record type. -/
def fieldsOfYaml? (node : Yaml) : Option (FieldMap String) := do
  let entries ← node.structure? ["fields"]
  Yaml.memberOr entries "fields" [] (Yaml.mapOf? Yaml.text?)

/-- Reads a schema document. -/
def ofYaml? (node : Yaml) : Option SchemaDocument := do
  let entries ← node.structure? ["name", "fields", "enums", "records"]
  let name ← (entries.lookup "name").bind Yaml.text?
  return ⟨name, ← Yaml.memberOr entries "fields" [] (Yaml.mapOf? Yaml.text?),
    ← Yaml.memberOr entries "enums" [] (Yaml.mapOf? EnumDeclaration.ofYaml?),
    ← Yaml.memberOr entries "records" [] (Yaml.mapOf? fieldsOfYaml?)⟩

end SchemaDocument
end RecordFilter
