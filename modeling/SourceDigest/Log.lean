namespace SourceDigest

inductive Severity where
  | debug
  | info
  | warn
  deriving DecidableEq, Repr

def Severity.name : Severity → String
  | .debug => "DEBUG"
  | .info => "INFO"
  | .warn => "WARN"

structure LogRecord where
  severity : Severity
  text : String
  deriving DecidableEq, Repr

def LogRecord.line (r : LogRecord) : String := r.severity.name ++ " " ++ r.text

def warning (text : String) : LogRecord := ⟨.warn, text⟩

def information (text : String) : LogRecord := ⟨.info, text⟩

structure Logged (α : Type) where
  value : α
  log : List LogRecord
  deriving DecidableEq, Repr

namespace Logged

variable {α β : Type}

def map (f : α → β) (l : Logged α) : Logged β := ⟨f l.value, l.log⟩

def bind (l : Logged α) (f : α → Logged β) : Logged β :=
  ⟨(f l.value).value, l.log ++ (f l.value).log⟩

def pure (a : α) : Logged α := ⟨a, []⟩

theorem value_bind (l : Logged α) (f : α → Logged β) : (l.bind f).value = (f l.value).value := rfl

theorem value_map (f : α → β) (l : Logged α) : (l.map f).value = f l.value := rfl

def warnings (l : Logged α) : List LogRecord := l.log.filter fun r => r.severity == .warn

end Logged

end SourceDigest
