import TypedVocabulary.Failure

/-! # Log records

A logged computation yields the entries it has written and its outcome. A failure ends it and
keeps the entries written so far. The text of an entry is made when a reader asks for it; what no
reader asks for cannot fail.
-/
namespace TypedVocabulary

inductive Level
  | debug
  | info
  | warning
  | error
  | critical
  deriving DecidableEq

namespace Level

def number : Level → Nat
  | debug => 10
  | info => 20
  | warning => 30
  | error => 40
  | critical => 50

def label : Level → String
  | debug => "DEBUG"
  | info => "INFO"
  | warning => "WARNING"
  | error => "ERROR"
  | critical => "CRITICAL"

def ofLabel? : String → Option Level
  | "DEBUG" => some debug
  | "INFO" => some info
  | "WARNING" => some warning
  | "ERROR" => some error
  | "CRITICAL" => some critical
  | _ => none

end Level

structure Record where
  level : Level
  source : String
  message : String
  deriving DecidableEq

/-- A record whose text may turn out to be none. -/
structure Entry where
  level : Level
  source : String
  message : Attempt String

structure Logged (α : Type) where
  entries : List Entry
  outcome : Attempt α

namespace Logged

def ofAttempt {α : Type} (x : Attempt α) : Logged α := ⟨[], x⟩

def bind {α β : Type} (x : Logged α) (f : α → Logged β) : Logged β :=
  match x.outcome with
  | .error e => ⟨x.entries, .error e⟩
  | .ok a =>
    let y := f a
    ⟨x.entries ++ y.entries, y.outcome⟩

instance : Monad Logged where
  pure a := ⟨[], .ok a⟩
  bind := bind

instance : MonadLift (Except Failure) Logged := ⟨ofAttempt⟩

/-- Answers a failure by another computation, after the entries written so far. -/
def recover {α : Type} (x : Logged α) (f : Failure → Logged α) : Logged α :=
  match x.outcome with
  | .ok _ => x
  | .error e =>
    let y := f e
    ⟨x.entries ++ y.entries, y.outcome⟩

instance : MonadExceptOf Failure Logged where
  throw e := ⟨[], .error e⟩
  tryCatch := recover

def settled {α : Type} (x : Logged α) : Logged (Attempt α) := ⟨x.entries, .ok x.outcome⟩

def writeLazily (level : Level) (source : String) (message : Attempt String) : Logged Unit :=
  ⟨[⟨level, source, message⟩], .ok ()⟩

def write (level : Level) (source message : String) : Logged Unit :=
  writeLazily level source (.ok message)

/-- The records of at least a level, then the outcome. An entry without a text ends both. -/
def readEntries {α : Type} (level : Level) (outcome : Attempt α) :
    List Entry → List Record × Attempt α
  | [] => ([], outcome)
  | entry :: rest =>
    if level.number ≤ entry.level.number then
      match entry.message with
      | .ok message =>
        let (records, ended) := readEntries level outcome rest
        (⟨entry.level, entry.source, message⟩ :: records, ended)
      | .error e => ([], .error e)
    else readEntries level outcome rest

def readAt {α : Type} (level : Level) (x : Logged α) : List Record × Attempt α :=
  readEntries level x.outcome x.entries

@[simp] theorem outcome_pure {α : Type} (a : α) : (pure a : Logged α).outcome = .ok a := rfl

@[simp] theorem outcome_lift {α : Type} (x : Attempt α) :
    (liftM x : Logged α).outcome = x := rfl

@[simp] theorem outcome_throw {α : Type} (e : Failure) :
    (throw e : Logged α).outcome = .error e := rfl

@[simp] theorem outcome_writeLazily (level : Level) (source : String) (message : Attempt String) :
    (writeLazily level source message).outcome = .ok () := rfl

@[simp] theorem outcome_write (level : Level) (source message : String) :
    (write level source message).outcome = .ok () := rfl

/-- Outcomes follow each other as if nothing were written. -/
@[simp] theorem outcome_bind {α β : Type} (x : Logged α) (f : α → Logged β) :
    (x >>= f).outcome = x.outcome >>= fun a => (f a).outcome := by
  obtain ⟨entries, outcome⟩ := x
  cases outcome <;> rfl

end Logged

/-! ## Names and settings of loggers -/

namespace Log

def rootName : String := "vocab_codegen"

/-- A name is taken as it is below the root and placed under the root otherwise. -/
def loggerName (name : String) : String :=
  if name = rootName || (rootName ++ ".").toList.isPrefixOf name.toList then name
  else rootName ++ "." ++ name

/-- Capital letters for the letters that level names are made of, with a dotless i and a long s. -/
def capital (c : Char) : Char :=
  if c = 'ı' then 'I' else if c = 'ſ' then 'S' else c.toUpper

/-- The severity number of a level name; an unknown name counts as a warning. -/
def severity (name : String) : Nat :=
  match name.map capital with
  | "CRITICAL" => 50
  | "FATAL" => 50
  | "ERROR" => 40
  | "WARN" => 30
  | "WARNING" => 30
  | "INFO" => 20
  | "DEBUG" => 10
  | "NOTSET" => 0
  | _ => 30

structure Configuration where
  level : Json
  handler : String

def configure (level rich : Json) : Attempt Configuration := do
  let number ←
    match level with
    | .str name => pure (Json.int (severity name))
    | .int _ | .bool _ => pure level
    | _ => Attempt.wrongOperand
  return ⟨number, if rich.truthy then "RichHandler" else "StreamHandler"⟩

def schemaSource : String := "vocab_codegen.core.schema"
def runSource : String := "vocab_codegen.core.generator"
def typesSource : String := "vocab_codegen.languages.dotnet.types"
def compilerSource : String := "vocab_codegen.languages.dotnet.compiler"
def rendererSource : String := "vocab_codegen.languages.dotnet.generator"
def loaderSource : String := "vocab_codegen.utils"
def commandSource : String := "vocab_codegen.cli"

end Log
end TypedVocabulary
