import TypedVocabulary.Classes.TypeExpr

/-! # Definitions of classes and enumerations

What is generated, as data: a class with its base and one property per field, an enumeration with
its members. Turning them into text is a matter of its own.
-/
namespace TypedVocabulary

inductive Converter
  | none
  | duration
  | time
  | taggedUnion
  deriving DecidableEq

def Converter.label : Converter → String
  | none => "none"
  | duration => "duration"
  | time => "time"
  | taggedUnion => "tagged_union"

inductive Shadowing
  | none
  | new
  | override
  deriving DecidableEq

def Shadowing.label : Shadowing → String
  | none => ""
  | new => "new"
  | override => "override"

structure Property where
  fieldName : Json
  name : String
  type : TypeExpr
  /-- Name and position in serialized data; a disinherited property has none. -/
  wireName : Json
  order : Option Int
  shadowing : Shadowing
  disinherited : Bool
  converter : Converter
  isExtension : Bool
  description : List String
  sample : Json
  requiredType : Option String
  notices : List String

structure ClassDefinition where
  type : Json
  name : String
  base : TypeExpr
  properties : List Property
  hasBaseClass : Bool
  description : List String

def ClassDefinition.notices (c : ClassDefinition) : List String :=
  c.properties.flatMap Property.notices

structure EnumMember where
  name : String
  value : String
  deriving DecidableEq

structure EnumDefinition where
  type : Json
  name : String
  «namespace» : Json
  members : List EnumMember
  description : List String
  /-- An enumeration of the foundation vocabulary is part of its library. -/
  isExternal : Bool

inductive Definition
  | ofClass (c : ClassDefinition)
  | ofEnum (e : EnumDefinition)

/-- The outcome for one declaration, under the type it was declared with. A backend may have
nothing to show for a success. -/
structure Compilation where
  name : Json
  notices : List String
  outcome : Except ResolutionError (Option Definition)

namespace Compilation

def error? (c : Compilation) : Option ResolutionError :=
  match c.outcome with
  | .ok _ => none
  | .error e => some e

def succeeded (c : Compilation) : Bool := c.error?.isNone

def text (c : Compilation) : Except Misuse String :=
  match c.outcome with
  | .ok _ => .ok ("CompilationResult(" ++ c.name.literal ++ ", ok)")
  | .error e => return "CompilationResult(" ++ c.name.literal ++ ", error=" ++ (← e.message) ++ ")"

end Compilation
end TypedVocabulary
