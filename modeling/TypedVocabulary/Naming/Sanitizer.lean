import TypedVocabulary.Naming.Case
import TypedVocabulary.Text.Lowercase

/-! # Sanitizers

A sanitizer hands out identifiers for one scope: reserved words are escaped, and a name that is in
use gets the first free number. The same request gets the same answer until the next reset.
-/
namespace TypedVocabulary

structure NamingRules where
  reserved : List String
  caseSensitive : Bool
  /-- Put before a reserved word; when it is empty the suffix goes behind instead. -/
  conflictMark : String

namespace NamingRules

def isReserved (r : NamingRules) (name : String) : Bool :=
  r.reserved.contains (if r.caseSensitive then name else Text.lower name)

/-- The test of a value that need not be a text, by the reserved values that are given. -/
def isReservedValue (r : NamingRules) (given : List Json) (name : Json) : Attempt Bool := do
  if r.caseSensitive then
    if name.hashable then return given.any (· == name) else Attempt.wrongOperand
  else return r.isReserved (← name.asText)

def escape (r : NamingRules) (suffix name : String) : String :=
  if r.isReserved name then
    if r.conflictMark.isEmpty then name ++ suffix else r.conflictMark ++ name
  else name

end NamingRules

/-- The first of `stem1`, `stem2`, … from a number on that is not in use. Each collision strikes
a name from the list, so the search ends. -/
def firstFree (stem : String) (used : List String) (number : Nat) : String :=
  let candidate := stem ++ toString number
  if h : candidate ∈ used then firstFree stem (used.erase candidate) (number + 1) else candidate
termination_by used.length
decreasing_by
  rw [List.length_erase_of_mem h]
  exact Nat.sub_lt (List.length_pos_of_mem h) (by decide)

structure Sanitizer where
  rules : NamingRules
  used : List String
  answers : List (String × String)

namespace Sanitizer

def ofRules (rules : NamingRules) : Sanitizer := ⟨rules, [], []⟩

/-- Requests that are written alike share their answer. -/
def requestKey (name : String) (style : NamingCase) (suffix : String) : String :=
  name ++ "_" ++ style.label ++ "_" ++ suffix

def resolveConflict (s : Sanitizer) (name suffix : String) : String :=
  let escaped := s.rules.escape suffix name
  if escaped ∈ s.used then firstFree (escaped ++ suffix) s.used 1 else escaped

def answer? (s : Sanitizer) (key : String) : Option String :=
  KeyedList.value? s.answers key

def use (s : Sanitizer) (name : String) : Sanitizer :=
  if name ∈ s.used then s else ⟨s.rules, name :: s.used, s.answers⟩

/-- Anything that can be in a set can be taken, but only texts are handed out. -/
def useValue (s : Sanitizer) (name : Json) : Attempt Sanitizer :=
  match name with
  | .str text => .ok (s.use text)
  | v => if v.hashable then .ok s else Attempt.wrongOperand

def reset (s : Sanitizer) : Sanitizer := ⟨s.rules, [], []⟩

def sanitize (s : Sanitizer) (name : Json) (style : NamingCase) (suffix : String) :
    Attempt (String × Sanitizer) :=
  let key := requestKey name.display style suffix
  match s.answer? key with
  | some answer => .ok (answer, s)
  | none => do
    let given ← name.asOperand
    let result := s.resolveConflict (Identifier.convert style given) suffix
    let taken := s.use result
    return (result, ⟨taken.rules, taken.used, (key, result) :: taken.answers⟩)

end Sanitizer

/-! ## Keywords of the generated language -/

namespace Keyword

def all : List String :=
  ["abstract", "as", "base", "bool", "break", "byte", "case", "catch", "char", "checked",
   "class", "const", "continue", "decimal", "default", "delegate", "do", "double", "else", "enum",
   "event", "explicit", "extern", "false", "finally", "fixed", "float", "for", "foreach", "goto",
   "if", "implicit", "in", "int", "interface", "internal", "is", "lock", "long", "namespace",
   "new", "null", "object", "operator", "out", "override", "params", "private", "protected",
   "public", "readonly", "ref", "return", "sbyte", "sealed", "short", "sizeof", "stackalloc",
   "static", "string", "struct", "switch", "this", "throw", "true", "try", "typeof", "uint",
   "ulong", "unchecked", "unsafe", "ushort", "using", "virtual", "void", "volatile", "while"]

/-- Keywords are told apart by case and escaped by an at sign. -/
def rules : NamingRules := ⟨all, true, "@"⟩

end Keyword

def typeName (name : String) : String :=
  let converted := Identifier.convert .upperCamel name
  if Keyword.rules.isReserved converted then "@" ++ converted else converted

end TypedVocabulary
