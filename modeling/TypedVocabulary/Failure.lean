import TypedVocabulary.Json.Literal

/-! # Failures

A failure is a cause with the values that explain it; its wording stands in one `message` beside
it. `Misuse` is apart: a value of a kind that an operation does not take, which documents and
settings can bring in because they are not checked when they are read.
-/
namespace TypedVocabulary

inductive Misuse
  | lacksOperation
  | wrongOperand
  /-- An operand of the right kind that stands for nothing. -/
  | outOfDomain
  | notUtf8
  | tooDeep
  deriving DecidableEq

/-! ## Reading JSON texts and files -/

inductive Json.SyntaxCause
  | value
  | memberName
  | colon
  | comma
  | extraData
  | unterminatedText
  | controlCharacter
  | escape
  | unicodeEscape
  | byteOrderMark
  deriving DecidableEq

def Json.SyntaxCause.message : Json.SyntaxCause → String
  | .value => "Expecting value"
  | .memberName => "Expecting property name enclosed in double quotes"
  | .colon => "Expecting ':' delimiter"
  | .comma => "Expecting ',' delimiter"
  | .extraData => "Extra data"
  | .unterminatedText => "Unterminated string starting at"
  | .controlCharacter => "Invalid control character at"
  | .escape => "Invalid \\escape"
  | .unicodeEscape => "Invalid \\uXXXX escape"
  | .byteOrderMark => "Unexpected UTF-8 BOM (decode using utf-8-sig)"

/-- Lines and columns count from one, the offset from zero. -/
structure Json.SyntaxError where
  cause : Json.SyntaxCause
  line : Nat
  column : Nat
  offset : Nat
  deriving DecidableEq

def Json.SyntaxError.message (e : Json.SyntaxError) : String :=
  s!"{e.cause.message}: line {e.line} column {e.column} (char {e.offset})"

inductive Json.ReadError
  | syntaxError (e : Json.SyntaxError)
  | longInteger (limit digits : Nat)
  | tooDeep
  deriving DecidableEq

def Json.longIntegerMessage (limit digits : Nat) : String :=
  s!"Exceeds the limit ({limit} digits) for integer string conversion: " ++
    s!"value has {digits} digits; use sys.set_int_max_str_digits() to increase the limit"

inductive AccessCause
  | missing
  | alreadyExists
  | notDirectory
  | isDirectory
  | nameTooLong
  deriving DecidableEq

def AccessCause.message : AccessCause → String
  | .missing => "[Errno 2] No such file or directory"
  | .alreadyExists => "[Errno 17] File exists"
  | .notDirectory => "[Errno 20] Not a directory"
  | .isDirectory => "[Errno 21] Is a directory"
  | .nameTooLong => "[Errno 36] File name too long"

structure AccessError where
  cause : AccessCause
  path : String
  deriving DecidableEq

def AccessError.message (e : AccessError) : String :=
  e.cause.message ++ ": " ++ Json.literalText e.path

/-! ## Documents -/

inductive SchemaError
  | invalidReference (value : Json)
  | invalidDescription (value : Json)
  | fieldNotObject (name : Json)
  | fieldWithoutName
  | nonIntegerOrder (name order : Json)
  | modelNotObject (name : Json)
  | modelWithoutType
  | invalidFields (type : Json)
  | enumNotObject (name : Json)
  | enumWithoutType
  | enumWithoutNamespace (type : Json)
  | invalidCollection (kind : String)
  | documentNotObject
  | documentWithoutModels

def SchemaError.message : SchemaError → String
  | invalidReference v => "Invalid type reference: " ++ v.literal
  | invalidDescription v => "Invalid description: " ++ v.literal
  | fieldNotObject n => "Field " ++ n.literal ++ " must be an object"
  | fieldWithoutName => "Field without a fieldName"
  | nonIntegerOrder n o => "Field " ++ n.literal ++ " has a non-integer order: " ++ o.literal
  | modelNotObject n => "Model " ++ n.literal ++ " must be an object"
  | modelWithoutType => "Model without a type"
  | invalidFields t => "Model " ++ t.literal ++ " has invalid fields"
  | enumNotObject n => "Enum " ++ n.literal ++ " must be an object"
  | enumWithoutType => "Enum without a type"
  | enumWithoutNamespace t => "Enum " ++ t.literal ++ " has no namespace"
  | invalidCollection k => "'" ++ k ++ "' must be an object or a list"
  | documentNotObject => "Schema document must be a JSON object"
  | documentWithoutModels => "Schema document has no 'models'"

/-! ## Settings -/

inductive ConfigError
  | notFound (path : String)
  | notJsonFile (path : String)
  | invalidJson (path : String) (e : Json.SyntaxError)
  | unreadable (path : String) (e : AccessError)
  | notObject (path : String)
  | unwritable (path : String) (e : AccessError)

def ConfigError.message : ConfigError → String
  | notFound p => "Configuration file not found: " ++ p
  | notJsonFile p => "Configuration file must be JSON: " ++ p
  | invalidJson p e => "Invalid JSON in configuration file " ++ p ++ ": " ++ e.message
  | unreadable p e => "Failed to load configuration file " ++ p ++ ": " ++ e.message
  | notObject p => "Configuration file must contain a JSON object: " ++ p
  | unwritable p e => "Failed to save configuration to " ++ p ++ ": " ++ e.message

/-! ## Resolution of models and fields -/

inductive ResolutionCause
  | general (message : Json)
  | unresolvedType (shortName compactKey : Json)
  | emptyUnion (field : Json)
  | missingBase (model : Json)

def ResolutionCause.message : ResolutionCause → Json
  | general m => m
  | unresolvedType s k =>
    .str ("Unrecognised type or enum referenced: " ++ s.display ++ ", " ++ k.display)
  | emptyUnion f => .str ("No type found for field: " ++ f.display)
  | missingBase m => .str ("No base class specified for: " ++ m.display)

/-- A cause with the place where it arose, as far as that is known. -/
structure ResolutionError where
  cause : ResolutionCause
  modelType : Json
  fieldName : Json

namespace ResolutionError

def unresolvedType (shortName compactKey : String) : ResolutionError :=
  ⟨.unresolvedType (.str shortName) (.str compactKey), .null, .null⟩

def emptyUnion (field : Json) : ResolutionError := ⟨.emptyUnion field, .null, field⟩

def missingBase (model : Json) : ResolutionError := ⟨.missingBase model, model, .null⟩

/-- A part of a place that is already known stays, and an absent one tells nothing new. -/
def refine (known told : Json) : Json := if told.truthy && !known.truthy then told else known

def located (e : ResolutionError) (modelType fieldName : Json) : ResolutionError :=
  ⟨e.cause, refine e.modelType modelType, refine e.fieldName fieldName⟩

/-- The known parts of the place, joined by a dot; each has to be a text. -/
def location (e : ResolutionError) : Except Misuse String :=
  match e.modelType.truthy, e.fieldName.truthy with
  | false, false => .ok ""
  | true, false => (e.modelType.text?.elim (.error .wrongOperand) .ok)
  | false, true => (e.fieldName.text?.elim (.error .wrongOperand) .ok)
  | true, true =>
    match e.modelType.text?, e.fieldName.text? with
    | some m, some f => .ok (m ++ "." ++ f)
    | _, _ => .error .wrongOperand

def message (e : ResolutionError) : Except Misuse String := do
  let place ← e.location
  if place = "" then
    match e.cause.message with
    | .str m => .ok m
    | _ => .error .wrongOperand
  else .ok (place ++ ": " ++ e.cause.message.display)

end ResolutionError

/-! ## Templates, backends, sources -/

inductive TemplateCause
  | notFound (name : String)
  | undefinedName (name : String)
  deriving DecidableEq

def TemplateCause.message : TemplateCause → String
  | notFound n => n
  | undefinedName n => Json.literalText n ++ " is undefined"

inductive TemplateError
  | named (template : String) (cause : TemplateCause)
  | inline (cause : TemplateCause)
  deriving DecidableEq

def TemplateError.message : TemplateError → String
  | named t c => "Failed to render template " ++ t ++ ": " ++ c.message
  | inline c => "Failed to render template string: " ++ c.message

inductive RegistryError
  | notGenerator
  | nameIsAlias (name owner : String)
  | aliasTaken (name owner : String)
  | unknownLanguage (language : String) (available : List String)
  | creationFailed (language : String) (e : ConfigError)
  | invalidConfig (kind : String)

def RegistryError.message : RegistryError → String
  | notGenerator => "Generator class must inherit from CodeGenerator"
  | nameIsAlias n o => "'" ++ n ++ "' is already an alias of '" ++ o ++ "'"
  | aliasTaken n o => "Alias '" ++ n ++ "' is already used by '" ++ o ++ "'"
  | unknownLanguage l available =>
    "No generator registered for language: " ++ l ++ ". Available: " ++
      String.intercalate ", " available
  | creationFailed l e => "Failed to create " ++ l ++ " generator: " ++ e.message
  | invalidConfig kind => "Invalid config type: <class '" ++ kind ++ "'>"

inductive LoadError
  | noSource
  | twoSources
  | invalidJson (path : String) (e : Json.SyntaxError)
  | unreadable (path : String) (e : AccessError)
  | invalidUrl (url : String)
  | timedOut (url : String)
  | notConnected (url : String)
  | badStatus (status : Option Int) (url : String)
  | requestFailed (url text : String)
  | invalidResponse (url text : String)
  | invalidDocument (source : String) (e : SchemaError)

def LoadError.message : LoadError → String
  | noSource => "Either file_path or url must be provided"
  | twoSources => "Cannot specify both file_path and url"
  | invalidJson p e => "Invalid JSON in file " ++ p ++ ": " ++ e.message
  | unreadable p e => "Error reading file " ++ p ++ ": " ++ e.message
  | invalidUrl u => "Invalid URL: " ++ u
  | timedOut u => "Request timeout for URL: " ++ u
  | notConnected u => "Connection error for URL: " ++ u
  | badStatus s u =>
    "HTTP error " ++ (s.elim "unknown" toString) ++ " for URL: " ++ u
  | requestFailed u t => "Request error for URL " ++ u ++ ": " ++ t
  | invalidResponse u t => "Invalid JSON response from URL " ++ u ++ ": " ++ t
  | invalidDocument s e => "Invalid schema document from " ++ s ++ ": " ++ e.message

inductive Failure
  | misuse (m : Misuse)
  | schema (e : SchemaError)
  | config (e : ConfigError)
  | resolution (e : ResolutionError)
  | generator (text : String)
  | template (e : TemplateError)
  | registry (e : RegistryError)
  | load (e : LoadError)
  | command (e : ConfigError)
  | fileNotFound (path : String)
  | access (e : AccessError)
  /-- A closing tag in text for the console that closes nothing. -/
  | markup

/-- The text shown for a failure; a misuse has none of its own. -/
def Failure.message : Failure → Except Misuse String
  | misuse m => .error m
  | schema e => .ok e.message
  | config e => .ok e.message
  | resolution e => e.message
  | generator t => .ok t
  | template e => .ok e.message
  | registry e => .ok e.message
  | load e => .ok e.message
  | command e => .ok ("Configuration error: " ++ e.message)
  | fileNotFound p => .ok ("File not found: " ++ p)
  | access e => .ok e.message
  | markup => .ok "Closing tag does not match any open tag"

abbrev Attempt (α : Type) := Except Failure α

namespace Attempt

def lacksOperation {α : Type} : Attempt α := .error (.misuse .lacksOperation)

def wrongOperand {α : Type} : Attempt α := .error (.misuse .wrongOperand)

def outOfDomain {α : Type} : Attempt α := .error (.misuse .outOfDomain)

def tooDeep {α : Type} : Attempt α := .error (.misuse .tooDeep)

def ofMisuse {α : Type} (x : Except Misuse α) : Attempt α := x.mapError .misuse

end Attempt

namespace Json

def textOr (refusal : Misuse) : Json → Attempt String
  | str s => .ok s
  | _ => .error (.misuse refusal)

def asText (v : Json) : Attempt String := v.textOr .lacksOperation

def asOperand (v : Json) : Attempt String := v.textOr .wrongOperand

/-- What a loop over a value visits: items, characters or member names. -/
def visit : Json → Attempt (List Json)
  | arr items => .ok items
  | str s => .ok (s.toList.map fun c => str (String.ofList [c]))
  | obj members => .ok (members.map fun m => str m.1)
  | _ => Attempt.wrongOperand

/-- Lists and objects cannot be members of a set. -/
def hashable : Json → Bool
  | arr _ => false
  | obj _ => false
  | _ => true

def kindName : Json → String
  | null => "NoneType"
  | bool _ => "bool"
  | int _ => "int"
  | float _ => "float"
  | str _ => "str"
  | arr _ => "list"
  | obj _ => "dict"

end Json
end TypedVocabulary
