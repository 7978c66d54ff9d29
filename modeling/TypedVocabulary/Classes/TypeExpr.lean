import TypedVocabulary.Failure

/-! # Type expressions

A type of the generated language as a tree: a name with an optional namespace, generic arguments
and a mark for nullable values. Notices are remarks picked up on the way; they take no part in
equality. Names of containers and of the root class come from the settings as they are, and only
texts can carry arguments or marks.
-/
namespace TypedVocabulary

inductive TypeKind
  | scalar
  | enumeration
  | model
  | foundation
  | list
  | union
  deriving DecidableEq

def TypeKind.label : TypeKind → String
  | scalar => "scalar"
  | enumeration => "enum"
  | model => "model"
  | foundation => "foundation"
  | list => "list"
  | union => "union"

structure TypeExpr where
  name : Json
  «namespace» : Json
  nullable : Bool
  kind : TypeKind
  arguments : List TypeExpr
  notices : List String

namespace TypeExpr

def plain (name : String) (nullable : Bool) (kind : TypeKind) : TypeExpr :=
  ⟨.str name, .null, nullable, kind, [], []⟩

def isUnion (t : TypeExpr) : Bool := t.kind = .union

def asNonNullable (t : TypeExpr) : TypeExpr := { t with nullable := false }

def withNotice (t : TypeExpr) (notice : String) : TypeExpr :=
  { t with notices := t.notices ++ [notice] }

/-- An absent namespace leaves the name as it is. -/
def qualifiedName (t : TypeExpr) : Json :=
  if t.namespace.truthy then .str (t.namespace.display ++ "." ++ t.name.display) else t.name

def withSuffix (name : Json) (suffix : String) : Attempt Json :=
  if suffix = "" then .ok name else return .str ((← name.asOperand) ++ suffix)

mutual

/-- The source text; a bare name that is no text stays what it is. -/
def render : TypeExpr → Attempt Json
  | ⟨name, space, nullable, kind, arguments, notices⟩ => do
    let generic ← renderArguments arguments
    withSuffix (qualifiedName ⟨name, space, nullable, kind, arguments, notices⟩)
      (generic ++ if nullable then "?" else "")

def renderArguments : List TypeExpr → Attempt String
  | [] => .ok ""
  | t :: ts => do
    let first ← (← render t).asOperand
    return "<" ++ first ++ (← renderMore ts) ++ ">"

def renderMore : List TypeExpr → Attempt String
  | [] => .ok ""
  | t :: ts => do
    let next ← (← render t).asOperand
    return ", " ++ next ++ (← renderMore ts)

end

def text (t : TypeExpr) : Attempt String := do (← t.render).asOperand

mutual

/-- The notices of a type, then those of its arguments in order. -/
def allNotices : TypeExpr → List String
  | ⟨_, _, _, _, arguments, notices⟩ => notices ++ argumentNotices arguments

def argumentNotices : List TypeExpr → List String
  | [] => []
  | t :: ts => allNotices t ++ argumentNotices ts

end

mutual

/-- Equality apart from notices. -/
def same : TypeExpr → TypeExpr → Bool
  | ⟨n, s, q, k, as, _⟩, ⟨n', s', q', k', as', _⟩ =>
    n == n' && s == s' && q == q' && k == k' && sameArguments as as'

def sameArguments : List TypeExpr → List TypeExpr → Bool
  | [], [] => true
  | t :: ts, u :: us => same t u && sameArguments ts us
  | _, _ => false

end

end TypeExpr
end TypedVocabulary
