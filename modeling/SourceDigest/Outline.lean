import SourceDigest.Json.Decode

namespace SourceDigest

open Json (Value Record Field Decoding)

structure Import where
  source : String
  deriving DecidableEq, Repr

structure Function where
  name : String
  parameters : List String
  deriving DecidableEq, Repr

structure Class where
  name : String
  deriving DecidableEq, Repr

structure Outline where
  imports : List Import
  functions : List Function
  classes : List Class
  deriving DecidableEq, Repr

structure Insights where
  functions : List Function
  classes : List Class
  imports : List Import
  deriving DecidableEq, Repr

namespace Import

def record : Record Import :=
  ⟨"ImportInsight", [.of "source" true Value.decodeText fun _ s => ⟨s⟩]⟩

def ofJson (v : Value) : Decoding Import := record.decode ⟨""⟩ v

def toJson (i : Import) : Value := .object [("source", .string i.source)]

theorem ofJson_toJson (i : Import) : ofJson i.toJson = .ok i := rfl

end Import

namespace Class

def record (name : String) : Record Class :=
  ⟨name, [.of "name" true Value.decodeText fun _ s => ⟨s⟩]⟩

def ofJson (name : String) (v : Value) : Decoding Class := (record name).decode ⟨""⟩ v

def toJson (c : Class) : Value := .object [("name", .string c.name)]

theorem ofJson_toJson (name : String) (c : Class) : ofJson name c.toJson = .ok c := rfl

end Class

namespace Function

def record (name parameters : String) : Record Function :=
  ⟨name, [
    .of "name" true Value.decodeText fun f s => { f with name := s },
    .of parameters true Value.decodeTexts fun f l => { f with parameters := l }]⟩

def ofJson (name parameters : String) (v : Value) : Decoding Function :=
  (record name parameters).decode ⟨"", []⟩ v

def toJson (parameters : String) (f : Function) : Value :=
  .object [("name", .string f.name), (parameters, .ofTexts f.parameters)]

theorem ofJson_toJson (name : String) {parameters : String} (h : parameters ≠ "name")
    (f : Function) : ofJson name parameters (f.toJson parameters) = .ok f := by
  have hl : Value.decodeTexts (.ofTexts f.parameters) = .ok f.parameters :=
    Value.decodeTexts_ofTexts _
  simp [ofJson, toJson, record, Record.decode, Record.ofMembers, Record.setMembers, Record.field?,
    Field.of, Except.map, Value.decodeText_string, hl, h.symm, Record.missing?, lookupEntry]

end Function

namespace Outline

def empty : Outline := ⟨[], [], []⟩

instance : Inhabited Outline := ⟨empty⟩

def isEmpty (o : Outline) : Bool := o.imports.isEmpty && o.functions.isEmpty && o.classes.isEmpty

def append (a b : Outline) : Outline :=
  ⟨a.imports ++ b.imports, a.functions ++ b.functions, a.classes ++ b.classes⟩

instance : Append Outline := ⟨append⟩

theorem empty_append (o : Outline) : empty ++ o = o := rfl

theorem append_empty (o : Outline) : o ++ empty = o := by
  show Outline.append o empty = o
  simp [append, empty]

theorem append_assoc (a b c : Outline) : a ++ b ++ c = a ++ (b ++ c) := by
  show append (append a b) c = append a (append b c)
  simp [append, List.append_assoc]

def record : Record Outline :=
  ⟨"CondensedAst", [
    .of "imports" true (Value.decodeList Import.ofJson) fun o l => { o with imports := l },
    .of "functions" true (Value.decodeList (Function.ofJson "CondensedFunction" "params"))
      fun o l => { o with functions := l },
    .of "classes" true (Value.decodeList (Class.ofJson "CondensedClass"))
      fun o l => { o with classes := l }]⟩

def ofJson (v : Value) : Decoding Outline := record.decode empty v

def toJson (o : Outline) : Value :=
  .object [
    ("imports", .array (o.imports.map Import.toJson)),
    ("functions", .array (o.functions.map (Function.toJson "params"))),
    ("classes", .array (o.classes.map Class.toJson))]

theorem ofJson_toJson (o : Outline) : ofJson o.toJson = .ok o := by
  have hi := Value.decodeItems_map Import.ofJson_toJson o.imports
  have hf := Value.decodeItems_map (Function.ofJson_toJson "CondensedFunction"
    (show "params" ≠ "name" by decide)) o.functions
  have hc := Value.decodeItems_map (Class.ofJson_toJson "CondensedClass") o.classes
  simp [ofJson, toJson, record, Record.decode, Record.ofMembers, Record.setMembers, Record.field?,
    Field.of, Except.map, Value.decodeList, hi, hf, hc, Record.missing?, lookupEntry]

end Outline

namespace Insights

def empty : Insights := ⟨[], [], []⟩

instance : Inhabited Insights := ⟨empty⟩

def record : Record Insights :=
  ⟨"CodeInsights", [
    .of "functions" true (Value.decodeList (Function.ofJson "FunctionInsight" "parameters"))
      fun i l => { i with functions := l },
    .of "classes" true (Value.decodeList (Class.ofJson "ClassInsight"))
      fun i l => { i with classes := l },
    .of "imports" true (Value.decodeList Import.ofJson) fun i l => { i with imports := l }]⟩

def ofJson (v : Value) : Decoding Insights := record.decode empty v

def toJson (i : Insights) : Value :=
  .object [
    ("functions", .array (i.functions.map (Function.toJson "parameters"))),
    ("classes", .array (i.classes.map Class.toJson)),
    ("imports", .array (i.imports.map Import.toJson))]

theorem ofJson_toJson (i : Insights) : ofJson i.toJson = .ok i := by
  have hi := Value.decodeItems_map Import.ofJson_toJson i.imports
  have hf := Value.decodeItems_map (Function.ofJson_toJson "FunctionInsight"
    (show "parameters" ≠ "name" by decide)) i.functions
  have hc := Value.decodeItems_map (Class.ofJson_toJson "ClassInsight") i.classes
  simp [ofJson, toJson, record, Record.decode, Record.ofMembers, Record.setMembers, Record.field?,
    Field.of, Except.map, Value.decodeList, hi, hf, hc, Record.missing?, lookupEntry]

end Insights

end SourceDigest
