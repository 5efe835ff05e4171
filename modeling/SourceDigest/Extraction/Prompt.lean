import SourceDigest.Json.Printer
import SourceDigest.Outline
import SourceDigest.Schema

namespace SourceDigest.Extraction

def schemaName : String := "code_insights"

def functionSchema : Schema :=
  .record "FunctionInsight" none [
    ("name", "Function or method name", .text),
    ("parameters", "Parameter names in declaration order", .list .text)]

def classSchema : Schema := .record "ClassInsight" none [("name", "Class name", .text)]

def importSchema : Schema :=
  .record "ImportInsight" none [
    ("source", "Module specifier exactly as written, without quotes", .text)]

def insightsSchema : Schema :=
  .record "CodeInsights" (some "Structural summary of a single source file") [
    ("functions", "Functions and methods declared in the file", .list functionSchema),
    ("classes", "Classes and class-like declarations (interfaces, structs, traits)",
      .list classSchema),
    ("imports", "Modules imported by the file", .list importSchema)]

def instructions : String :=
  "Analyze the condensed syntax tree of one source file and report its structure.\n"
    ++ "Rules:\n"
    ++ "- List every function and method under \"functions\" with its parameter names, in source order.\n"
    ++ "- List every class, interface, struct, enum or trait under \"classes\".\n"
    ++ "- List every imported module under \"imports\" using the module specifier exactly as written.\n"
    ++ "- Do not invent entries that are not present in the input.\n"
    ++ "- Answer with JSON only."

def exampleFunction : Function := ⟨"findUser", ["id"]⟩

def exampleClass : Class := ⟨"UserService"⟩

def exampleImport : Import := ⟨"./db"⟩

def exampleOutline : Outline := ⟨[exampleImport], [exampleFunction], [exampleClass]⟩

def exampleInsights : Insights := ⟨[exampleFunction], [exampleClass], [exampleImport]⟩

def promptHead : String :=
  instructions ++ "\n\nOutput schema:\n" ++ insightsSchema.document.pretty
    ++ "\n\nExample input:\n" ++ exampleOutline.toJson.compact
    ++ "\nExample output:\n" ++ exampleInsights.toJson.compact ++ "\n\n"

def promptTail (path payload : String) : String :=
  "File: " ++ path ++ "\nInput:\n" ++ payload ++ "\n"

def prompt (path payload : String) : String := promptHead ++ promptTail path payload

end SourceDigest.Extraction
