import SourceDigest.Syntax.Node

namespace SourceDigest.Syntax

inductive ImportRule where
  | field (name : String)
  | optionalField (name : String)
  | fieldOrEach (name each : String)
  | call (callees : List String)
  deriving DecidableEq, Repr

inductive ParameterRule where
  | field (name : String)
  | value (name : String) (kinds : List String)
  deriving DecidableEq, Repr

structure FunctionRule where
  nameField : String
  parameters : ParameterRule
  receivers : List String
  deriving DecidableEq, Repr

inductive Construct where
  | imports (rule : ImportRule)
  | function (rule : FunctionRule)
  | class (nameField : String)
  deriving DecidableEq, Repr

namespace Construct

def functionValues : List String :=
  ["arrow_function", "function_expression", "function", "generator_function"]

def declared (receivers : List String) : Construct :=
  .function ⟨"name", .field "parameters", receivers⟩

def bound (nameField : String) : Construct :=
  .function ⟨nameField, .value "value" functionValues, []⟩

def table : List (String × Construct) := [
  ("import_statement", .imports (.fieldOrEach "source" "name")),
  ("export_statement", .imports (.optionalField "source")),
  ("import_from_statement", .imports (.field "module_name")),
  ("use_declaration", .imports (.field "argument")),
  ("call_expression", .imports (.call ["require", "import"])),
  ("function_declaration", declared ["this"]),
  ("generator_function_declaration", declared ["this"]),
  ("function_signature", declared ["this"]),
  ("method_definition", declared ["this"]),
  ("method_signature", declared ["this"]),
  ("abstract_method_signature", declared ["this"]),
  ("function_definition", declared ["self", "cls"]),
  ("function_item", declared []),
  ("function_signature_item", declared []),
  ("variable_declarator", bound "name"),
  ("public_field_definition", bound "name"),
  ("field_definition", bound "property"),
  ("class_declaration", .class "name"),
  ("abstract_class_declaration", .class "name"),
  ("class_definition", .class "name"),
  ("interface_declaration", .class "name"),
  ("struct_item", .class "name"),
  ("enum_item", .class "name"),
  ("trait_item", .class "name")]

def ofKind? (kind : String) : Option Construct := table.lookup kind

end Construct

def parameterNameFields : List String := ["pattern", "name", "left"]

def parameterIdentifiers : List String :=
  ["identifier", "shorthand_property_identifier_pattern", "this"]

def parameterPatterns : List String :=
  ["rest_pattern", "list_splat_pattern", "dictionary_splat_pattern", "object_pattern",
    "array_pattern", "tuple_pattern"]

def parameterSkipped : List String :=
  ["decorator", "accessibility_modifier", "override_modifier", "readonly", "type_annotation",
    "comment", "self_parameter", "keyword_separator", "positional_separator", "attribute_item",
    "mutable_specifier"]

def parameterOtherFields : List String := ["type", "value", "default", "return_type"]

def nameKinds : List String :=
  ["identifier", "type_identifier", "property_identifier", "private_property_identifier",
    "field_identifier", "string", "computed_property_name"]

def literalKinds : List String := ["string", "template_string"]

end SourceDigest.Syntax
