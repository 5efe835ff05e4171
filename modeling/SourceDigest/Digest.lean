import SourceDigest.Manifest
import SourceDigest.Outline
import SourceDigest.Priority
import SourceDigest.TechStack

namespace SourceDigest

open Json (Value Record Field Decoding)

structure Digest where
  schemaVersion : UInt32
  root : String
  techStack : TechStack
  manifest : Option Manifest
  insights : Dict Insights
  files : List FileRecord
  content : String
  totalTokens : UInt64
  generatedAt : UInt64
  deriving DecidableEq

namespace Digest

def currentVersion : UInt32 := 1

def empty : Digest := ⟨0, "", .empty, none, .empty, [], "", 0, 0⟩

instance : Inhabited Digest := ⟨empty⟩

def record : Record Digest :=
  ⟨"ProjectContext", [
    .of "schema_version" true (Value.decodeUInt32 "u32") fun d n => { d with schemaVersion := n },
    .of "project_root_path" true Value.decodeText fun d s => { d with root := s },
    .of "tech_stack" true TechStack.ofJson fun d t => { d with techStack := t },
    .of "package_json" false (Value.decodeOption Manifest.ofJson)
      fun d m => { d with manifest := m },
    .of "code_insights" false (Value.decodeDict Insights.ofJson)
      fun d i => { d with insights := i },
    .of "files" false (Value.decodeList FileRecord.ofJson) fun d l => { d with files := l },
    .of "content" false Value.decodeText fun d s => { d with content := s },
    .of "total_tokens" true (Value.decodeUInt64 "usize") fun d n => { d with totalTokens := n },
    .of "generated_at_unix_ms" true (Value.decodeUInt64 "u64")
      fun d n => { d with generatedAt := n }]⟩

def ofJson (v : Value) : Decoding Digest := record.decode empty v

def toJson (d : Digest) : Value :=
  .object ([("schema_version", .ofNat d.schemaVersion.toNat),
      ("project_root_path", .string d.root), ("tech_stack", d.techStack.toJson)]
    ++ Json.memberIfSome "package_json" Manifest.toJson d.manifest
    ++ [("code_insights", .object (d.insights.entries.map fun (k, i) => (k, i.toJson))),
      ("files", .array (d.files.map FileRecord.toJson)),
      ("content", .string d.content),
      ("total_tokens", .ofNat d.totalTokens.toNat),
      ("generated_at_unix_ms", .ofNat d.generatedAt.toNat)])

end Digest

end SourceDigest
